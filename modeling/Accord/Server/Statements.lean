import Accord.Server.Auth.DeviceRows
import Accord.Server.Groups.Joins
import Accord.Server.Guests
import Accord.Server.Messaging.Separation
import Mathlib.Logic.Relation

/-! Everything a call can write.  A call is a sequence of the statements below,
each with what was checked for it in the store it meets.  Later results split
on these statements and never reopen a handler. -/

namespace Accord

/-- What is known of a call beforehand: whose it is, the group that it asks to
delete, and what it does to tables that are not modelled. -/
structure Request where
  caller : Option Uuid
  deletes : Option Uuid
  change : Option (Store → Store)

/-- Why somebody becomes a member: by signing in, in a group that this very
call created, by being added to a public channel, or by using one. -/
inductive Entry (start : Store) (request : Request) (before : Store)
    (groupId userId : Uuid) : Prop
  | lobby (user : UserRow) (listed : user ∈ before.users)
      (named : user.id = userId) (ordinary : user.isGuest = false)
      (signedOut : request.caller = none)
      (hall : groupId = AuthSvc.defaultPublicChannelId)
  | founded (signed : request.caller.isSome = true)
      (new : start.hasGroup groupId = false)
  | added (adder : Uuid) (signed : request.caller = some adder)
      (isPublic : before.kindOf groupId = some .pub)
      (trusted : before.isUserGuest adder = false)
      (ordinary : before.isUserGuest userId = false)
      (unbanned : before.isBanned userId = false)
  | joined (signed : request.caller = some userId)
      (isPublic : before.kindOf groupId = some .pub)
      (ordinary : before.isUserGuest userId = false)
      (unbanned : before.isBanned userId = false)

/-- Whose session a new refresh token goes on with: one that starts on a
device of an account, or the one of a token that is stored. -/
inductive Granted (before : Store) (row : RefreshRow) : Prop
  | session (user : UserRow) (listed : user ∈ before.users)
      (named : user.id = row.userId)
      (device : ∃ device ∈ before.devices,
        device.id = row.deviceId ∧ device.userId = row.userId)
  | replacing (old : RefreshRow) (live : old ∈ before.refreshTokens)
      (user : old.userId = row.userId) (device : old.deviceId = row.deviceId)

def MayRemove (before : Store) (caller userId : Uuid) : Prop :=
  userId = caller ∨
    (Authz.effective before caller).allows Permissions.kickMembers = true ∨
    ((Authz.effective before caller).allows Permissions.banMembers = true ∧
      Authz.canActOn before caller userId = true)

/-- What the handlers of the calls require before they ask the guardrails about
an action; about the others they do not ask. -/
def ActionClass.permission : ActionClass → Option Permissions
  | .createChannel | .deleteChannel => some Permissions.manageChannels
  | .kickMember => some Permissions.kickMembers
  | .banMember => some Permissions.banMembers
  | .updateServer => some Permissions.manageServer
  | .createRole | .updateRole | .deleteRole | .assignRole => none

def MayAct (store : Store) (user : Uuid) (action : ActionClass) : Prop :=
  ∃ permission ∈ action.permission,
    (Authz.effective store user).allows permission = true

/-- One write of a call.  `start` is the store that the call met. -/
inductive Statement (start : Store) (request : Request)
    (before : Store) : Store → Prop
  | register (row : UserRow)
      (ordinary : row.isGuest = true → row.isOwner = false)
      (unused : ∀ user ∈ before.users, user.username ≠ row.username ∧
        (row.identityKey.isSome = true →
          user.identityKey ≠ row.identityKey))
      (signedOut : request.caller = none) :
      Statement start request before
        { before with users := before.users ++ [row] }
  | addDevice (fresh userId : Uuid) (name : String)
      (present : before.hasUser userId = true) :
      Statement start request before
        { before with
          devices := before.devices ++ [⟨fresh, userId, name, none⟩] }
  | storeToken (row : RefreshRow)
      (accepted : before.acceptsRefreshToken row = true)
      (granted : Granted before row) :
      Statement start request before
        { before with refreshTokens := before.refreshTokens ++ [row] }
  | dropToken (token : String) :
      Statement start request before (before.deleteRefreshToken token)
  | revoke (user deviceId : Uuid) (now : Int)
      (signed : request.caller = some user) :
      Statement start request before (before.revokeDevice user deviceId now)
  | ban (user target : Uuid) (reason : String)
      (signed : request.caller = some user)
      (allowed : (Authz.effective before user).allows
        Permissions.banMembers = true)
      (notOwner : before.isOwner target = false)
      (outranked : Authz.canActOn before user target = true) :
      Statement start request before (before.banUser target user reason)
  | unban (user target : Uuid) (signed : request.caller = some user)
      (allowed : (Authz.effective before user).allows
        Permissions.banMembers = true) :
      Statement start request before (before.unbanUser target)
  | remove (user groupId target : Uuid) (signed : request.caller = some user)
      (permitted : MayRemove before user target) :
      Statement start request before (before.removeMember groupId target)
  | createChannel (user : Uuid) (row : GroupRow)
      (signed : request.caller = some user) (isPublic : row.kind = .pub)
      (allowed : (Authz.effective before user).allows
        Permissions.manageChannels = true)
      (new : before.hasGroup row.id = false) :
      Statement start request before
        { before with groups := before.groups ++ [row] }
  | createPrivate (row : GroupRow) (signed : request.caller.isSome = true)
      (isPrivate : row.kind = .priv)
      (new : before.hasGroup row.id = false) :
      Statement start request before
        { before with groups := before.groups ++ [row] }
  | enter (groupId userId : Uuid) (role : String)
      (entry : Entry start request before groupId userId)
      (references : before.referencesHold
        (before.hasGroup groupId && before.hasUser userId) = true)
      (absent : before.isMember groupId userId = false) :
      Statement start request before
        { before with
          groupMembers := before.groupMembers ++ [⟨groupId, userId, role⟩] }
  | deleteGroup (user groupId : Uuid) (signed : request.caller = some user)
      (named : request.deletes = some groupId)
      (isPublic : before.kindOf groupId = some .pub)
      (allowed : (Authz.effective before user).allows
        Permissions.manageChannels = true) :
      Statement start request before (before.deleteGroup groupId)
  | placeChannels (user : Uuid) (categoryId : String) (ids : List Uuid)
      (signed : request.caller = some user)
      (allowed : (Authz.effective before user).allows
        Permissions.manageChannels = true) :
      Statement start request before (before.reorderChannels categoryId ids)
  | clearCategory (user id : Uuid) (signed : request.caller = some user)
      (allowed : (Authz.effective before user).allows
        Permissions.manageChannels = true) :
      Statement start request before (before.deleteCategory id)
  | rename (user : Uuid) (displayName avatarUrl : String)
      (signed : request.caller = some user) :
      Statement start request before
        (before.updateProfile user displayName avatarUrl)
  | role (user : Uuid) (call : RoleCall) (after : Store)
      (signed : request.caller = some user)
      (written : RoleWritten before user call after) :
      Statement start request before after
  | storePublic (row : PublicMessageRow)
      (signed : request.caller = some row.senderId)
      (new : before.findPublicMessage row.groupId row.clientMessageId = none)
      (stored : before.storesPublicMessage row = true)
      (member : before.isMember row.groupId row.senderId = true) :
      Statement start request before
        { before with publicMessages := before.publicMessages ++ [row] }
  | storePrivate (row : PrivateMessageRow)
      (signed : request.caller = some row.senderId)
      (new : before.findPrivateMessage row.groupId row.clientMessageId = none)
      (stored : before.storesPrivateMessage row = true)
      (member : before.isMember row.groupId row.senderId = true) :
      Statement start request before
        { before with privateMessages := before.privateMessages ++ [row] }
  | queue (row : InboxRow) (signed : request.caller.isSome = true)
      (references : before.referencesHold
        (before.hasDevice row.deviceId) = true) :
      Statement start request before
        { before with inbox := before.inbox ++ [row] }
  | drain (device : Uuid) (signed : request.caller.isSome = true) :
      Statement start request before (before.drainInbox device).2
  | audit (user : Uuid) (action : ActionClass)
      (target outcome reason : String) (decision : GuardrailDecision)
      (signed : request.caller = some user)
      (notable : decision.audit = some (outcome, reason))
      (allowed : MayAct before user action) :
      Statement start request before
        (before.recordAudit user action.asStr target outcome reason)
  | elsewhere (change : Store → Store)
      (same : before.SameLedgers (change before))
      (signedOut : request.caller = none)
      (named : request.change = some change) :
      Statement start request before (change before)

/-- The statements made so far lead from the start of the call to here. -/
def Led (start : Store) (request : Request) : Store → Prop :=
  Relation.ReflTransGen (Statement start request) start

namespace Led

variable {start store : Store} {request : Request}

theorem refl (start : Store) (request : Request) :
    Led start request start :=
  Relation.ReflTransGen.refl

theorem write (led : Led start request store) {after : Store}
    (statement : Statement start request store after) :
    Led start request after :=
  Relation.ReflTransGen.tail led statement

theorem keeps (invariant : Store → Prop) (led : Led start request store)
    (kept : ∀ before after, Statement start request before after →
      invariant before → invariant after)
    (initially : invariant start) : invariant store := by
  induction led with
  | refl => exact initially
  | tail _ statement holds => exact kept _ _ statement holds

/-- What every statement does, in a relation that adds up, the call does. -/
theorem relates {relation : Store → Store → Prop}
    (reflexive : ∀ store, relation store store)
    (transitive : ∀ {first second third}, relation first second →
      relation second third → relation first third)
    (led : Led start request store)
    (each : ∀ before after, Statement start request before after →
      relation before after) : relation start store :=
  led.keeps _ (fun before after statement related =>
    transitive related (each before after statement)) (reflexive start)

end Led

section Writes

open Effect

variable {start store : Store} {request : Request} {user : Uuid}
  {deletes : Option Uuid} {change : Option (Store → Store)}

private theorem addMember_led (led : Led start request store)
    {groupId userId : Uuid}
    (role : String) (entry : Entry start request store groupId userId) :
    Led start request (Store.addMember groupId userId role store).2 := by
  rw [Store.addMember_eq]
  split
  · rename_i references
    split
    · exact led
    · rename_i absent
      exact led.write (.enter groupId userId role entry references
        (by simpa using absent))
  · exact led

private theorem keeps_led_guard (start : Store) (user : Uuid)
    (info : Store → Prop)
    (kept : ∀ (store : Store) log, info store →
      info { store with auditLog := log })
    (decision : GuardrailDecision) (action : ActionClass) (target : String)
    (allowed : ∀ store, info store → MayAct store user action) :
    (GroupSvc.guard decision user action target).Keeps fun store =>
      Led start ⟨some user, deletes, change⟩ store ∧ info store := by
  refine Keeps.bind (keeps_update ?_)
    fun _ => (readOnly_ofExcept _).keeps
  rintro store ⟨led, holds⟩
  split
  · rename_i outcome reason notable
    exact ⟨led.write (.audit user action target outcome reason decision rfl
      notable (allowed store holds)), kept store _ holds⟩
  · exact ⟨led, holds⟩

private theorem keeps_led_enqueueInbox (signed : request.caller.isSome = true)
    (device : Uuid) (kind : InboxKind) (group : Uuid) (payload : Bytes) :
    (Store.enqueueInbox device kind group payload).Keeps
      (Led start request) := by
  intro store led
  have queued : (Store.enqueueInbox device kind group payload).Post store
      fun _ after => Led start request after := by
    refine (readOnly_check _ _).post_bind (fun _ _ => led) ?_
    intro _ passed
    exact post_update (led.write (.queue ⟨device, kind, group, payload⟩
      signed (check_ok passed)))
  exact queued

/-! Accounts and sessions. -/

private theorem storeRefreshToken_led (led : Led start request store)
    {row : RefreshRow} (granted : Granted store row) :
    Led start request (Store.storeRefreshToken row store).2 := by
  cases accepted : store.acceptsRefreshToken row with
  | true =>
      rw [Store.storeRefreshToken_accepted accepted]
      exact led.write (.storeToken row accepted granted)
  | false =>
      obtain ⟨error, refused⟩ := Store.storeRefreshToken_refused accepted
      rw [refused]
      exact led

/-- The account is there, with the device that its session is for. -/
def SignsIn (user : UserRow) (deviceId : Uuid) (store : Store) : Prop :=
  user ∈ store.users ∧ ∃ device ∈ store.devices,
    device.id = deviceId ∧ device.userId = user.id

private theorem findOrCreateDevice_led
    (led : Led start ⟨none, deletes, change⟩ store)
    {account : UserRow} (listed : account ∈ store.users) (fresh : Uuid)
    (name : String) :
    (AuthSvc.findOrCreateDevice fresh account.id name).Post store
      fun result after => Led start ⟨none, deletes, change⟩ after ∧
        ∀ id, result = .ok id → SignsIn account id after := by
  refine (readOnly_read _).post_bind (fun _ _ => ⟨led, nofun⟩) ?_
  intro found viewed
  cases found with
  | some existing =>
      have same : store.findDevice account.id name = some existing := by
        injection viewed
      obtain ⟨row, member, named, owned, _⟩ := Store.hasRow_of_findDevice same
      refine post_pure ⟨led, ?_⟩
      rintro id ⟨⟩
      exact ⟨listed, row, member, named, owned⟩
  | none =>
      have present : store.hasUser account.id = true :=
        List.any_eq_true.mpr ⟨account, listed, beq_self_eq_true _⟩
      have created : (Store.createDevice fresh account.id name).Post store
          fun result after => Led start ⟨none, deletes, change⟩ after ∧
            ∀ id, result = .ok id → SignsIn account id after := by
        refine (readOnly_check _ _).post_bind (fun _ _ => ⟨led, nofun⟩) ?_
        intro _ _
        apply post_update_bind
        refine post_pure ⟨led.write (.addDevice fresh account.id name
          present), ?_⟩
        rintro id ⟨⟩
        exact ⟨listed, ⟨fresh, account.id, name, none⟩, by simp, rfl, rfl⟩
      exact ⟨created.1, fun id passed => created.2 id (mapError_ok passed)⟩

private theorem joinDefaultChannel_led (account : UserRow) (deviceId : Uuid) :
    (AuthSvc.joinDefaultChannel account).Keeps fun store =>
      Led start ⟨none, deletes, change⟩ store ∧
        SignsIn account deviceId store := by
  simp only [AuthSvc.joinDefaultChannel]
  split
  · exact (readOnly_pure _).keeps
  · rename_i ordinary
    apply Keeps.attempt
    rintro store ⟨led, signsIn⟩
    refine ⟨addMember_led led "member" (.lobby account signsIn.1 rfl
      (by simpa using ordinary) rfl rfl), ?_⟩
    rw [Store.addMember_eq]
    split
    · split <;> exact signsIn
    · exact signsIn

private theorem issueSession_led
    (led : Led start ⟨none, deletes, change⟩ store) {account : UserRow}
    (listed : account ∈ store.users) (mint : AuthSvc.Mint)
    (deviceName : String) :
    (AuthSvc.issueSession mint account deviceName).Post store
      fun _ after => Led start ⟨none, deletes, change⟩ after := by
  refine post_bind (findOrCreateDevice_led led listed mint.id
    (AuthSvc.sessionDeviceName deviceName)) (fun _ _ holds => holds.1) ?_
  intro deviceId after holds
  refine (joinDefaultChannel_led account deviceId).post_bind
    ⟨holds.1, holds.2 deviceId rfl⟩ (fun _ _ holds => holds.1) ?_
  rintro _ joined ⟨led, member, device⟩
  have stored : (orStatus (Store.storeRefreshToken ⟨mint.token, account.id,
      deviceId, mint.now + AuthSvc.refreshTokenTtl⟩)).Post joined
      fun _ after => Led start ⟨none, deletes, change⟩ after :=
    storeRefreshToken_led led (.session account member rfl device)
  exact post_bind stored (fun _ _ led => led) (fun _ _ led => led)

private theorem createUser_led
    (led : Led start ⟨none, deletes, change⟩ store) {row : UserRow}
    (ordinary : row.isGuest = true → row.isOwner = false) :
    (Store.createUser row).Post store fun _ after =>
      Led start ⟨none, deletes, change⟩ after := by
  refine (readOnly_check _ _).post_bind (fun _ _ => led) ?_
  intro _ passed
  apply post_update_bind
  apply post_pure
  apply led.write
  refine Statement.register row ordinary ?_ rfl
  have unused := check_ok passed
  intro account listed
  simp only [Bool.not_eq_true', List.any_eq_false] at unused
  have apart := unused account listed
  simp only [Bool.or_eq_true, Bool.and_eq_true, beq_iff_eq, not_or,
    not_and] at apart
  exact apart

private theorem refreshToken_led
    (led : Led start ⟨none, deletes, change⟩ store) (mint : AuthSvc.Mint)
    (token : String) :
    (AuthSvc.refreshToken mint token).Post store
      fun _ after => Led start ⟨none, deletes, change⟩ after := by
  refine (readOnly_require _ _).post_bind (fun _ _ => led) ?_
  intro row found
  have viewed := require_ok found
  have live := Store.lookupRefreshToken_eq viewed
  refine (readOnly_check _ _).post_bind (fun _ _ => led) ?_
  intro _ _
  have stored : (orStatus (Store.storeRefreshToken
      (AuthSvc.replacement mint row))).Post store
      fun _ after => Led start ⟨none, deletes, change⟩ after :=
    storeRefreshToken_led led (.replacing row live.1 rfl rfl)
  refine post_bind stored (fun _ _ led => led) ?_
  intro _ after led
  apply post_update_bind
  exact post_pure (led.write (.dropToken token))

/-! Moderation. -/

private theorem keeps_led_revokeDevice (now : Int) (claims : Claims)
    (deviceId : Option IdText) :
    (AuthSvc.revokeDevice now (some claims) deviceId).Keeps
      (Led start ⟨some claims.sub, deletes, change⟩) := by
  rw [AuthSvc.revokeDevice, authenticate_bind]
  refine (readOnly_ofOption _ _).keeps.bind fun text => ?_
  refine (readOnly_ofOption _ _).keeps.bind fun device => ?_
  exact keeps_update fun store led =>
    led.write (.revoke claims.sub device now rfl)

structure MayBan (user target : Uuid) (store : Store) : Prop where
  allowed : (Authz.effective store user).allows
    Permissions.banMembers = true
  notOwner : store.isOwner target = false
  outranked : Authz.canActOn store user target = true

private theorem permitBan_led
    (led : Led start ⟨some user, deletes, change⟩ store)
    (decision : GuardrailDecision) (target : Uuid) :
    (GroupSvc.permitBan decision user target).Post store
      fun result after => Led start ⟨some user, deletes, change⟩ after ∧
        (result = .ok () → MayBan user target after) := by
  refine (Authz.readOnly_require _ _).post_bind (fun _ _ => ⟨led, nofun⟩) ?_
  intro _ allowed
  refine (readOnly_check _ _).post_bind (fun _ _ => ⟨led, nofun⟩) ?_
  intro _ notOwner
  refine (Authz.readOnly_requireOutranks _ _).post_bind
    (fun _ _ => ⟨led, nofun⟩) ?_
  intro _ outranked
  have may : MayBan user target store :=
    ⟨Authz.require_ok allowed, by simpa using check_ok notOwner,
      Authz.requireOutranks_ok outranked⟩
  have guarded := keeps_led_guard start user (MayBan user target)
    (fun _ _ may => ⟨may.1, may.2, may.3⟩)
    decision .banMember target.text (fun _ may => ⟨_, rfl, may.1⟩) store
    ⟨led, may⟩
  exact ⟨guarded.1, fun _ => guarded.2⟩

private theorem banMember_led
    (led : Led start ⟨some user, deletes, change⟩ store)
    (decision : GuardrailDecision) (device : Uuid)
    (req : GroupSvc.BanMemberRequest) :
    (GroupSvc.banMember decision (some ⟨user, device⟩) req).Post store
      fun _ after => Led start ⟨some user, deletes, change⟩ after := by
  rw [GroupSvc.banMember, authenticate_bind]
  refine (GroupSvc.readOnly_requireUserId _).post_bind (fun _ _ => led) ?_
  intro target _
  refine post_bind (permitBan_led led decision target)
    (fun _ _ holds => holds.1) ?_
  intro _ after holds
  have may := holds.2 rfl
  refine (readOnly_read _).post_bind (fun _ _ => holds.1) ?_
  intro groups _
  have removes : (forEach (GroupSvc.removeMember · target) groups).Keeps
      fun store => Led start ⟨some user, deletes, change⟩ store ∧
        MayBan user target store := by
    apply keeps_forEach
    intro groupId
    apply keeps_update
    rintro store ⟨led, may⟩
    exact ⟨led.write (.remove user groupId target rfl
      (.inr (.inr ⟨may.allowed, may.outranked⟩))), may.1, may.2, may.3⟩
  refine removes.post_bind ⟨holds.1, may⟩ (fun _ _ holds => holds.1) ?_
  rintro _ last ⟨led, may⟩
  exact post_update (led.write (.ban user target (trim req.reason) rfl
    may.allowed may.notOwner may.outranked))

private theorem unbanMember_led
    (led : Led start ⟨some user, deletes, change⟩ store) (device : Uuid)
    (userId : Option IdText) :
    (GroupSvc.unbanMember (some ⟨user, device⟩) userId).Post store
      fun _ after => Led start ⟨some user, deletes, change⟩ after := by
  rw [GroupSvc.unbanMember, authenticate_bind]
  refine (GroupSvc.readOnly_requireUserId _).post_bind (fun _ _ => led) ?_
  intro target _
  refine (Authz.readOnly_require _ _).post_bind (fun _ _ => led) ?_
  intro _ allowed
  exact post_update (led.write (.unban user target rfl
    (Authz.require_ok allowed)))

private theorem permitted_led {permit : Effect Store Status Unit}
    {target : Uuid}
    (led : Led start ⟨some user, deletes, change⟩ store)
    (permits : target ≠ user → permit.Post store fun result after =>
      Led start ⟨some user, deletes, change⟩ after ∧ (result = .ok () →
        (Authz.effective after user).allows Permissions.kickMembers = true))
    (free : target = user → permit = pure ()) (groupId : Uuid) :
    Effect.Post (do permit; GroupSvc.removeMember groupId target) store
      fun _ after => Led start ⟨some user, deletes, change⟩ after := by
  by_cases own : target = user
  · rw [free own]
    exact post_update (led.write (.remove user groupId target rfl (.inl own)))
  · refine post_bind (permits own) (fun _ _ holds => holds.1) ?_
    intro _ after holds
    exact post_update (holds.1.write (.remove user groupId target rfl
      (.inr (.inl (holds.2 rfl)))))

private theorem guardKick_led
    (led : Led start ⟨some user, deletes, change⟩ store)
    (allowed : (Authz.effective store user).allows
      Permissions.kickMembers = true)
    (decision : GuardrailDecision) (target : Uuid) :
    (GroupSvc.guard decision user .kickMember target.text).Post store
      fun result after =>
        Led start ⟨some user, deletes, change⟩ after ∧ (result = .ok () →
        (Authz.effective after user).allows
          Permissions.kickMembers = true) := by
  have guarded := keeps_led_guard start user
    (fun store => (Authz.effective store user).allows
      Permissions.kickMembers = true) (fun _ _ allowed => allowed)
    decision .kickMember target.text (fun _ allowed => ⟨_, rfl, allowed⟩)
    store ⟨led, allowed⟩
  exact ⟨guarded.1, fun _ => guarded.2⟩

private theorem removeListed_led (decision : GuardrailDecision) (groupId : Uuid)
    (member : IdText) :
    (GroupSvc.removeListed decision user groupId member).Keeps
      (Led start ⟨some user, deletes, change⟩) := by
  intro store led
  have removed : (GroupSvc.removeListed decision user groupId member).Post
      store fun _ after => Led start ⟨some user, deletes, change⟩ after := by
    refine (readOnly_ofOption _ _).post_bind (fun _ _ => led) ?_
    intro target _
    apply permitted_led led
    · intro other
      simp only [GroupSvc.permitRemoval, if_neg other]
      refine (Authz.readOnly_require _ _).post_bind
        (fun _ _ => ⟨led, by simp⟩) ?_
      intro _ allowed
      exact guardKick_led led (Authz.require_ok allowed) decision target
    · intro own
      simp only [GroupSvc.permitRemoval, if_pos own]
  exact removed

private theorem keeps_led_removeMembers (decisions : ℕ → GuardrailDecision)
    (device : Uuid) (req : GroupSvc.RemoveMembersRequest) :
    (GroupSvc.removeMembers decisions (some ⟨user, device⟩) req).Keeps
      (Led start ⟨some user, deletes, change⟩) := by
  rw [GroupSvc.removeMembers, authenticate_bind]
  refine (GroupSvc.readOnly_requireGroupId _).keeps.bind fun groupId => ?_
  apply keeps_forEach
  intro entry
  exact removeListed_led (decisions entry.2) groupId entry.1

private theorem kickMember_led
    (led : Led start ⟨some user, deletes, change⟩ store)
    (decision : GuardrailDecision) (device : Uuid)
    (req : GroupSvc.KickMemberRequest) :
    (GroupSvc.kickMember decision (some ⟨user, device⟩) req).Post store
      fun _ after => Led start ⟨some user, deletes, change⟩ after := by
  rw [GroupSvc.kickMember, authenticate_bind]
  refine (GroupSvc.readOnly_requireGroupId _).post_bind (fun _ _ => led) ?_
  intro groupId _
  refine (GroupSvc.readOnly_requireUserId _).post_bind (fun _ _ => led) ?_
  intro target _
  apply permitted_led led
  · intro other
    simp only [GroupSvc.permitKick, if_neg other]
    refine (Authz.readOnly_require _ _).post_bind
      (fun _ _ => ⟨led, by simp⟩) ?_
    intro _ allowed
    refine (Authz.readOnly_requireOutranks _ _).post_bind
      (fun _ _ => ⟨led, by simp⟩) ?_
    intro _ _
    exact guardKick_led led (Authz.require_ok allowed) decision target
  · intro own
    simp only [GroupSvc.permitKick, if_pos own]

/-! Groups. -/

theorem groupPublic_of_getGroup {groupId : Uuid} {group : GroupRow}
    (found : (orStatus (Store.getGroup groupId) store).1 = .ok group)
    (isPublic : group.kind = .pub) : store.kindOf groupId = some .pub := by
  have viewed := require_ok (mapError_ok found)
  simp only [Store.kindOf, viewed, Option.map_some, isPublic]

/-- A channel is about to be created: the caller may, and the groups are those
that the call met. -/
def Founding (start : Store) (user : Uuid) (store : Store) : Prop :=
  (Authz.effective store user).allows Permissions.manageChannels = true ∧
    store.groups = start.groups

private theorem openCreate_led (start : Store) (decision : GuardrailDecision)
    (device : Uuid) (req : GroupSvc.CreatePublicGroupRequest) :
    (GroupSvc.openCreate decision (some ⟨user, device⟩) req).Post start
      fun result after => Led start ⟨some user, deletes, change⟩ after ∧
        ∀ caller, result = .ok caller →
          caller = user ∧ Founding start user after := by
  have led : Led start ⟨some user, deletes, change⟩ start := .refl start _
  rw [GroupSvc.openCreate, authenticate_bind]
  refine (readOnly_check _ _).post_bind (fun _ _ => ⟨led, by simp⟩) ?_
  intro _ _
  refine (Authz.readOnly_require _ _).post_bind (fun _ _ => ⟨led, by simp⟩) ?_
  intro _ allowed
  refine (keeps_led_guard start user (Founding start user)
    (fun _ _ founding => founding) decision
    .createChannel (trim req.name)
    fun _ founding => ⟨_, rfl, founding.1⟩).post_bind
    ⟨led, Authz.require_ok allowed, rfl⟩ (fun _ _ holds => ⟨holds.1, by simp⟩)
    ?_
  rintro _ after ⟨led, founding⟩
  refine post_pure ⟨led, ?_⟩
  rintro caller ⟨⟩
  exact ⟨rfl, founding⟩

private theorem insertChannel_led
    (led : Led start ⟨some user, deletes, change⟩ store)
    (founding : Founding start user store) (fresh : Uuid)
    (req : GroupSvc.CreatePublicGroupRequest) :
    (GroupSvc.insertChannel fresh req).Post store
      fun result after => Led start ⟨some user, deletes, change⟩ after ∧
        ∀ groupId, result = .ok groupId →
          start.hasGroup groupId = false := by
  obtain ⟨allowed, same⟩ := founding
  have created : (Store.createPublicGroup fresh (trim req.name)
      (trim req.description) (GroupSvc.parseChannelKind req.channelKind)
      (trim req.categoryId)).Post store fun result after =>
        Led start ⟨some user, deletes, change⟩ after ∧
          ∀ groupId, result = .ok groupId →
          start.hasGroup groupId = false := by
    refine (readOnly_check _ _).post_bind (fun _ _ => ⟨led, nofun⟩) ?_
    intro _ passed
    have new : store.hasGroup fresh = false := by simpa using check_ok passed
    apply post_update_bind
    refine post_pure ⟨led.write (.createChannel user _ rfl rfl allowed new),
      ?_⟩
    rintro groupId ⟨⟩
    simpa only [Store.hasGroup, same] using new
  exact ⟨created.1, fun groupId passed =>
    created.2 groupId (mapError_ok passed)⟩

private theorem createPublicGroup_led (decision : GuardrailDecision)
    (fresh : Uuid)
    (device : Uuid) (req : GroupSvc.CreatePublicGroupRequest)
    (server : Server) :
    Led server.store ⟨some user, deletes, change⟩
      (GroupSvc.createPublicGroup decision fresh
      (some ⟨user, device⟩) req server).2.store := by
  rw [Joins.createPublicGroup_store]
  have created : Effect.Post (do
      let caller ← GroupSvc.openCreate decision (some ⟨user, device⟩) req
      let groupId ← GroupSvc.insertChannel fresh req
      orStatus (Store.addMember groupId caller "owner")) server.store
      fun _ after => Led server.store ⟨some user, deletes, change⟩ after := by
    refine post_bind (openCreate_led server.store decision device req)
      (fun _ _ holds => holds.1) ?_
    rintro caller opened ⟨led, passed⟩
    obtain ⟨rfl, founding⟩ := passed caller rfl
    refine post_bind (insertChannel_led led founding fresh req)
      (fun _ _ holds => holds.1) ?_
    rintro groupId inserted ⟨led, new⟩
    exact addMember_led led "owner" (.founded rfl (new groupId rfl))
  exact created

private theorem adoptGroup_led (start : Store) (groupId : Uuid) (name : String)
    (memberIds : List IdText) :
    (GroupSvc.adoptGroup user groupId name memberIds).Post start
      fun _ after => Led start ⟨some user, deletes, change⟩ after := by
  have led : Led start ⟨some user, deletes, change⟩ start := .refl start _
  have created : (orStatus (Store.createPrivateGroupWithId groupId
      (GroupSvc.privateGroupName name))).Post start fun result after =>
        Led start ⟨some user, deletes, change⟩ after ∧
          (result = .ok () → start.hasGroup groupId = false) := by
    have inserted : (Store.createPrivateGroupWithId groupId
        (GroupSvc.privateGroupName name)).Post start fun result after =>
          Led start ⟨some user, deletes, change⟩ after ∧
            (result = .ok () → start.hasGroup groupId = false) := by
      refine (readOnly_check _ _).post_bind (fun _ _ => ⟨led, nofun⟩) ?_
      intro _ passed
      have new : start.hasGroup groupId = false := by
        simpa using check_ok passed
      exact post_update ⟨led.write (.createPrivate _ rfl rfl new),
        fun _ => new⟩
    exact ⟨inserted.1, fun passed => inserted.2 (mapError_ok passed)⟩
  refine post_bind created (fun _ _ holds => holds.1) ?_
  rintro _ after ⟨led, passed⟩
  have founded : ∀ userId role, (Store.addMember groupId userId role).Keeps
      (Led start ⟨some user, deletes, change⟩) := fun userId role store led =>
    addMember_led led role (.founded rfl (passed rfl))
  refine ((founded user "owner").mapError _).post_bind led
    (fun _ _ led => led) ?_
  intro _ joined led
  have enrols : (forEach (GroupSvc.enrol groupId) memberIds).Keeps
      (Led start ⟨some user, deletes, change⟩) := by
    apply keeps_forEach
    intro member
    refine (readOnly_ofOption _ _).keeps.bind fun userId => ?_
    exact (founded userId "member").mapError _
  exact enrols joined led

private theorem keeps_led_relayWelcome (bus : Bus) (groupId : Uuid)
    (target : WelcomeTarget) :
    (MlsRelaySvc.relayWelcome bus groupId target).Keeps
      (Server.OnStore (Led start ⟨some user, deletes, change⟩)) :=
  MlsRelaySvc.keeps_relayWelcome (keeps_led_enqueueInbox rfl) bus groupId
    target

private theorem createPrivateGroup_led (bus : Bus) (device : Uuid)
    (req : GroupSvc.CreatePrivateGroupRequest) (server : Server) :
    Led server.store ⟨some user, deletes, change⟩
      (GroupSvc.createPrivateGroup bus
      (some ⟨user, device⟩) req server).2.store := by
  have created : (GroupSvc.createPrivateGroup bus (some ⟨user, device⟩)
      req).Post server fun _ after =>
        Server.OnStore (Led server.store ⟨some user, deletes, change⟩)
          after := by
    rw [GroupSvc.createPrivateGroup, authenticate_bind]
    refine (Server.readOnly_onStore
      (GroupSvc.readOnly_requireGroupId _)).post_bind
      (fun _ _ => Led.refl _ _) ?_
    intro groupId _
    refine post_bind (Server.post_onStore (adoptGroup_led server.store groupId
      req.name req.memberIds)) (fun _ _ led => led) ?_
    intro _ adopted led
    refine (keeps_forEach (keeps_led_relayWelcome bus groupId)
      req.welcomes).post_bind led (fun _ _ led => led) ?_
    intro _ relayed led
    exact (Server.keeps_subscribe device groupId).post_bind led
      (fun _ _ led => led) (fun _ _ led => led)
  exact created

/-- A public channel that somebody who is no guest adds members to. -/
structure MayAdd (user groupId : Uuid) (store : Store) : Prop where
  trusted : store.isUserGuest user = false
  isPublic : store.kindOf groupId = some .pub

private theorem addMemberById_led (groupId : Uuid) (member : IdText) :
    (GroupSvc.addMemberById groupId member).Keeps fun store =>
      Led start ⟨some user, deletes, change⟩ store ∧
        MayAdd user groupId store := by
  rintro store ⟨led, adding⟩
  have added : (GroupSvc.addMemberById groupId member).Post store
      fun _ after => Led start ⟨some user, deletes, change⟩ after ∧
        MayAdd user groupId after := by
    refine (readOnly_ofOption _ _).post_bind (fun _ _ => ⟨led, adding⟩) ?_
    intro userId _
    refine (readOnly_check _ _).post_bind (fun _ _ => ⟨led, adding⟩) ?_
    intro _ ordinary
    refine (readOnly_check _ _).post_bind (fun _ _ => ⟨led, adding⟩) ?_
    intro _ unbanned
    refine ⟨addMember_led led "member" (.added user rfl adding.isPublic
      adding.trusted (by simpa using check_ok ordinary)
      (by simpa using check_ok unbanned)), ?_⟩
    simp only [orStatus, mapError]
    rw [Store.addMember_eq]
    split
    · split <;> exact ⟨adding.trusted, adding.isPublic⟩
    · exact adding
  exact added

private theorem addMembers_led
    (led : Led start ⟨some user, deletes, change⟩ store) (device : Uuid)
    (req : GroupSvc.AddMembersRequest) :
    (GroupSvc.addMembers (some ⟨user, device⟩) req).Post store
      fun _ after => Led start ⟨some user, deletes, change⟩ after := by
  rw [GroupSvc.addMembers, authenticate_bind]
  refine (readOnly_check _ _).post_bind (fun _ _ => led) ?_
  intro _ trusted
  refine (GroupSvc.readOnly_requireGroupId _).post_bind (fun _ _ => led) ?_
  intro groupId _
  refine ((readOnly_getGroup groupId).mapError _).post_bind
    (fun _ _ => led) ?_
  intro group found
  refine (readOnly_check _ _).post_bind (fun _ _ => led) ?_
  intro _ isPublic
  have adding : MayAdd user groupId store :=
    ⟨by simpa using check_ok trusted,
      groupPublic_of_getGroup found (by simpa using check_ok isPublic)⟩
  exact (keeps_forEach (addMemberById_led groupId) req.memberIds store
    ⟨led, adding⟩).1

/-! Channels and profiles. -/

private theorem deleteGroup_led {text : Option IdText}
    (led : Led start ⟨some user, text.bind IdText.parse, change⟩ store)
    (decision : GuardrailDecision) (device : Uuid) :
    (GroupSvc.deleteGroup decision (some ⟨user, device⟩) text).Post store
      fun _ after =>
        Led start ⟨some user, text.bind IdText.parse, change⟩ after := by
  rw [GroupSvc.deleteGroup, authenticate_bind]
  refine (GroupSvc.readOnly_requireGroupId _).post_bind (fun _ _ => led) ?_
  intro groupId parsed
  refine ((readOnly_getGroup groupId).mapError _).post_bind
    (fun _ _ => led) ?_
  intro group found
  refine (readOnly_check _ _).post_bind (fun _ _ => led) ?_
  intro _ isPublic
  refine (Authz.readOnly_require _ _).post_bind (fun _ _ => led) ?_
  intro _ allowed
  have known := groupPublic_of_getGroup found
    (by simpa using check_ok isPublic)
  refine (keeps_led_guard start user
    (fun store => store.kindOf groupId = some .pub ∧
      (Authz.effective store user).allows Permissions.manageChannels = true)
    (fun _ _ holds => holds) decision .deleteChannel group.name
    fun _ holds => ⟨_, rfl, holds.2⟩).post_bind
    ⟨led, known, Authz.require_ok allowed⟩ (fun _ _ holds => holds.1) ?_
  rintro _ after ⟨led, known, allowed⟩
  exact post_update (led.write (.deleteGroup user groupId rfl
    (GroupSvc.requireGroupId_ok parsed) known allowed))

private theorem reorderChannels_led
    (led : Led start ⟨some user, deletes, change⟩ store)
    (device : Uuid) (categoryId : String) (groupIds : List IdText) :
    (GroupSvc.reorderChannels (some ⟨user, device⟩) categoryId
      groupIds).Post store fun _ after =>
        Led start ⟨some user, deletes, change⟩ after := by
  rw [GroupSvc.reorderChannels, authenticate_bind]
  refine (Authz.readOnly_require _ _).post_bind (fun _ _ => led) ?_
  intro _ allowed
  refine (readOnly_ofOption _ _).post_bind (fun _ _ => led) ?_
  intro ids _
  exact post_update (led.write (.placeChannels user (trim categoryId) ids rfl
    (Authz.require_ok allowed)))

private theorem deleteCategory_led
    (led : Led start ⟨some user, deletes, change⟩ store)
    (decision : GuardrailDecision) (device : Uuid) (id : IdText) :
    (GroupSvc.deleteCategory decision (some ⟨user, device⟩) id).Post store
      fun _ after => Led start ⟨some user, deletes, change⟩ after := by
  rw [GroupSvc.deleteCategory, authenticate_bind]
  refine (Authz.readOnly_require _ _).post_bind (fun _ _ => led) ?_
  intro _ allowed
  refine (readOnly_ofOption _ _).post_bind (fun _ _ => led) ?_
  intro id _
  refine (keeps_led_guard start user
    (fun store => (Authz.effective store user).allows
      Permissions.manageChannels = true) (fun _ _ holds => holds) decision
    .deleteChannel id.text fun _ holds => ⟨_, rfl, holds⟩).post_bind
    ⟨led, Authz.require_ok allowed⟩ (fun _ _ holds => holds.1) ?_
  rintro _ after ⟨led, allowed⟩
  exact post_update (led.write (.clearCategory user id rfl allowed))

private theorem createCategory_led
    (led : Led start ⟨some user, deletes, change⟩ store)
    (decision : GuardrailDecision) (device : Uuid) (name : String) :
    (GroupSvc.createCategory decision (some ⟨user, device⟩) name).Post store
      fun _ after => Led start ⟨some user, deletes, change⟩ after := by
  rw [GroupSvc.createCategory, authenticate_bind]
  refine (Authz.readOnly_require _ _).post_bind (fun _ _ => led) ?_
  intro _ allowed
  refine (readOnly_check _ _).post_bind (fun _ _ => led) ?_
  intro _ _
  exact (keeps_led_guard start user
    (fun store => (Authz.effective store user).allows
      Permissions.manageChannels = true) (fun _ _ holds => holds) decision
    .createChannel (trim name) (fun _ holds => ⟨_, rfl, holds⟩) store
    ⟨led, Authz.require_ok allowed⟩).1

private theorem readOnly_reorderCategories (claims : Claims)
    (categoryIds : List IdText) :
    (GroupSvc.reorderCategories (some claims) categoryIds).ReadOnly :=
  (readOnly_authenticate _).bind fun _ =>
    (Authz.readOnly_require _ _).bind fun _ => readOnly_ofOption _ _

private theorem updateTavern_led
    (led : Led start ⟨some user, deletes, change⟩ store)
    (decision : GuardrailDecision) (device : Uuid) :
    (GroupSvc.updateTavern decision (some ⟨user, device⟩)).Post store
      fun _ after => Led start ⟨some user, deletes, change⟩ after := by
  rw [GroupSvc.updateTavern, authenticate_bind]
  refine (Authz.readOnly_require _ _).post_bind (fun _ _ => led) ?_
  intro _ allowed
  exact (keeps_led_guard start user
    (fun store => (Authz.effective store user).allows
      Permissions.manageServer = true) (fun _ _ holds => holds) decision
    .updateServer "tavern" (fun _ holds => ⟨_, rfl, holds⟩) store
    ⟨led, Authz.require_ok allowed⟩).1

private theorem updateProfile_led
    (led : Led start ⟨some user, deletes, change⟩ store)
    (device : Uuid) (displayName avatarUrl : String) :
    (GroupSvc.updateProfile (some ⟨user, device⟩) displayName
        avatarUrl).Post store
      fun _ after => Led start ⟨some user, deletes, change⟩ after := by
  rw [GroupSvc.updateProfile, authenticate_bind]
  refine (readOnly_check _ _).post_bind (fun _ _ => led) ?_
  intro _ _
  apply post_update_bind
  have renamed := led.write
    (.rename user (trim displayName) (trim avatarUrl) rfl)
  refine (readOnly_require _ _).post_bind (fun _ _ => renamed) ?_
  intro account _
  exact post_pure renamed

/-! Messages. -/

private theorem requireParticipant_led
    (led : Led start ⟨some user, deletes, change⟩ store)
    (groupId : Uuid) :
    (MessagingSvc.requireParticipant groupId user).Post store
      fun result after => Led start ⟨some user, deletes, change⟩ after ∧
        (result = .ok () → after.isMember groupId user = true) := by
  rw [Post]
  cases takesPart : MessagingSvc.participates store groupId user with
  | false =>
      obtain ⟨error, refused⟩ :=
        MessagingSvc.requireParticipant_refused takesPart
      rw [refused]
      exact ⟨led, by simp⟩
  | true =>
      rw [MessagingSvc.requireParticipant_of_participates takesPart]
      cases member : store.isMember groupId user with
      | true => exact ⟨led, fun _ => member⟩
      | false =>
          simp only [MessagingSvc.participates, member, Bool.false_or,
            Bool.and_eq_true, Bool.not_eq_true', beq_iff_eq] at takesPart
          obtain ⟨⟨⟨isPublic, ordinary⟩, unbanned⟩, references⟩ := takesPart
          refine ⟨led.write (.enter groupId user "member"
            (.joined rfl isPublic ordinary unbanned) (by simpa using references)
            member), fun _ => ?_⟩
          exact (Store.isMember_append store ⟨groupId, user, "member"⟩ groupId
            user).mpr (.inr ⟨rfl, rfl⟩)

private theorem keeps_led_requireParticipant (groupId : Uuid) :
    (MessagingSvc.requireParticipant groupId user).Keeps
      (Led start ⟨some user, deletes, change⟩) :=
  fun _ led => (requireParticipant_led led groupId).1

private theorem keepPublicMessage_led (row : PublicMessageRow)
    (led : Led start ⟨some row.senderId, deletes, change⟩ store)
    (member : store.isMember row.groupId row.senderId = true) :
    Led start ⟨some row.senderId, deletes, change⟩
      (Store.keepPublicMessage row store).2 := by
  cases found : store.findPublicMessage row.groupId row.clientMessageId with
  | some stored =>
      rw [Store.keepPublicMessage_of_stored found]
      exact led
  | none =>
      cases accepted : store.storesPublicMessage row with
      | false =>
          obtain ⟨error, refused⟩ :=
            Store.keepPublicMessage_of_refused found accepted
          rw [refused]
          exact led
      | true =>
          rw [Store.keepPublicMessage_of_accepted found accepted]
          exact led.write (.storePublic row rfl found accepted member)

private theorem acceptPublicMessage_led
    (led : Led start ⟨some user, deletes, change⟩ store)
    (draw : RowDraw) (fresh : Uuid) (m : SendPublicMessage) :
    (MessagingSvc.acceptPublicMessage draw fresh user m).Post store
      fun _ after => Led start ⟨some user, deletes, change⟩ after := by
  refine (MessagingSvc.readOnly_requireGroupId _).post_bind
    (fun _ _ => led) ?_
  intro groupId _
  refine (readOnly_check _ _).post_bind (fun _ _ => led) ?_
  intro _ _
  refine post_bind (requireParticipant_led led groupId)
    (fun _ _ holds => holds.1) ?_
  rintro _ entered ⟨led, member⟩
  have inserted : (Store.insertPublicMessage draw groupId user
      (trim m.content) ((m.clientMessageId.bind IdText.parse).getD
        fresh)).Post entered fun _ after =>
          Led start ⟨some user, deletes, change⟩ after := by
    rw [Post, Store.insertPublicMessage_store]
    exact keepPublicMessage_led (Store.sentMessage draw groupId user
      (trim m.content) ((m.clientMessageId.bind IdText.parse).getD fresh))
      led (member rfl)
  exact post_bind inserted (fun _ _ led => led) (fun _ _ led => led)

private theorem storeSent_led (draw : RowDraw) (send : PrivateSend)
    (led : Led start ⟨some send.claims.sub, deletes, change⟩ store)
    (member : store.isMember send.groupId send.claims.sub = true) :
    Led start ⟨some send.claims.sub, deletes, change⟩
      (MessagingSvc.storeSent draw send store).2 := by
  have stored : (MessagingSvc.storeSent draw send).Post store fun _ after =>
      Led start ⟨some send.claims.sub, deletes, change⟩ after := by
    refine (readOnly_read _).post_bind (fun _ _ => led) ?_
    intro found viewed
    cases found with
    | some earlier => exact post_pure led
    | none =>
        have new : store.findPrivateMessage send.groupId
            send.clientMessageId = none := by
          injection viewed
        simp only [Post]
        cases accepted : store.storesPrivateMessage ({
            id := draw.id
            groupId := send.groupId, senderId := send.claims.sub
            senderDeviceId := send.claims.deviceId
            ciphertext := send.ciphertext, epoch := send.epoch
            clientMessageId := send.clientMessageId
            seq := draw.seq, createdAt := draw.now }) with
        | false =>
            obtain ⟨error, refused⟩ :=
              Store.insertPrivateMessage_of_refused accepted
            rw [refused]
            exact led
        | true =>
            rw [Store.insertPrivateMessage_of_accepted accepted]
            exact led.write (.storePrivate _ rfl new accepted member)
  exact stored

private theorem keeps_led_mailOffline (codec : InboxCodec)
    (singleInstance : Bool)
    (send : PrivateSend) (row : PrivateMessageRow) :
    (MessagingSvc.mailOffline codec singleInstance send row).Keeps
      (Server.OnStore (Led start ⟨some user, deletes, change⟩)) := by
  simp only [MessagingSvc.mailOffline]
  split
  · refine (Server.keeps_onStore (readOnly_read _).keeps).bind ?_
    intro devices
    apply keeps_forEach
    intro device
    refine (readOnly_read _).keeps.bind fun connected => ?_
    split
    · exact (readOnly_pure _).keeps
    · exact (Server.keeps_onStore
        ((keeps_led_enqueueInbox rfl _ _ _ _).mapError _)).attempt
  · exact (readOnly_pure _).keeps

private theorem privateMessage_led (bus : Bus) (codec : InboxCodec)
    (singleInstance : Bool) (draw : RowDraw) (fresh : Uuid) (claims : Claims)
    (m : SendPrivateMessage) (server : Server) :
    Led server.store ⟨some claims.sub, deletes, change⟩
      (MessagingSvc.handlePrivateMessage bus
      codec singleInstance draw fresh claims m server).2.store := by
  have handled : (MessagingSvc.handlePrivateMessage bus codec singleInstance
      draw fresh claims m).Post server fun _ after =>
        Server.OnStore (Led server.store ⟨some claims.sub, deletes, change⟩)
          after := by
    refine (Server.readOnly_onStore
      (MessagingSvc.readOnly_acceptPrivateMessage fresh claims m)).post_bind
      (fun _ _ => Led.refl _ _) ?_
    intro send accepted
    obtain ⟨groupId, _, _, member, rfl⟩ :=
      MessagingSvc.acceptPrivateMessage_ok accepted
    have stored : (Server.onStore (orStatus (MessagingSvc.storeSent draw
        (MessagingSvc.acceptedSend fresh claims groupId m)))).Post server
        fun _ after =>
          Server.OnStore
            (Led server.store ⟨some claims.sub, deletes, change⟩) after :=
      storeSent_led draw (MessagingSvc.acceptedSend fresh claims groupId m)
        (.refl _ _) member
    refine post_bind stored (fun _ _ led => led) ?_
    intro row saved led
    refine (Server.keeps_publish bus _).post_bind led (fun _ _ led => led) ?_
    intro _ published led
    exact keeps_led_mailOffline codec singleInstance _ row published led
  exact handled

private theorem keeps_led_sendCommit (bus : Bus) (claims : Claims)
    (req : MlsRelaySvc.SendCommitRequest) :
    (MlsRelaySvc.sendCommit bus (some claims) req).Keeps
      (Server.OnStore (Led start ⟨some claims.sub, deletes, change⟩)) := by
  rw [MlsRelaySvc.sendCommit, authenticate_bind]
  refine (Server.keeps_onStore
    (GroupSvc.readOnly_requireGroupId _).keeps).bind fun groupId => ?_
  refine (Server.keeps_onStore (readOnly_check _ _).keeps).bind fun _ => ?_
  refine (Server.keeps_publish bus _).bind fun _ => ?_
  exact keeps_forEach (keeps_led_relayWelcome bus groupId) req.welcomes

private theorem keeps_led_sendWelcome (bus : Bus) (claims : Claims)
    (req : MlsRelaySvc.SendWelcomeRequest) :
    (MlsRelaySvc.sendWelcome bus (some claims) req).Keeps
      (Server.OnStore (Led start ⟨some claims.sub, deletes, change⟩)) := by
  rw [MlsRelaySvc.sendWelcome, authenticate_bind]
  refine (Server.keeps_onStore
    (GroupSvc.readOnly_requireGroupId _).keeps).bind fun groupId => ?_
  exact keeps_forEach (keeps_led_relayWelcome bus groupId) req.welcomes

private theorem keeps_led_openStream (claims : Claims) :
    (MessagingSvc.openStream (some claims)).Keeps
      (Server.OnStore (Led start ⟨some claims.sub, deletes, change⟩)) := by
  rw [MessagingSvc.openStream, authenticate_bind]
  refine (Server.keeps_onStore (readOnly_read _).keeps).bind fun groups => ?_
  refine Keeps.bind (keeps_update ?_) fun _ => ?_
  · exact fun server led => led
  · exact Server.keeps_onStore (keeps_update fun store led =>
      led.write (.drain claims.deviceId rfl))

private theorem keeps_led_voiceSignal (signal : VoiceSignal) :
    (orStatus (MessagingSvc.acceptVoiceSignal user signal)).Keeps
      (Led start ⟨some user, deletes, change⟩) := by
  apply Keeps.mapError
  refine (MessagingSvc.readOnly_requireGroupId _).keeps.bind
    fun groupId => ?_
  refine (keeps_led_requireParticipant groupId).bind fun _ => ?_
  exact (readOnly_ofOption _ _).keeps

private theorem keeps_led_voiceState (claims : Claims)
    (update : VoiceStateUpdate) :
    (MessagingSvc.handleVoiceState claims update).Keeps
      (Server.OnStore (Led start ⟨some claims.sub, deletes, change⟩)) := by
  refine (Server.keeps_onStore
    ((MessagingSvc.readOnly_requireGroupId _).keeps.mapError _)).bind
      fun groupId => ?_
  refine (Server.keeps_onStore
    ((keeps_led_requireParticipant groupId).mapError _)).bind fun _ => ?_
  refine (Server.keeps_subscribe _ _).bind fun _ => ?_
  refine (Server.keeps_onStore (readOnly_read _).keeps).bind fun _ => ?_
  exact (readOnly_pure _).keeps

private theorem keeps_led_publicHistory (claims : Claims)
    (req : FetchHistoryRequest) :
    (MessagingSvc.fetchPublicHistory (some claims) req).Keeps
      (Led start ⟨some claims.sub, deletes, change⟩) := by
  rw [MessagingSvc.fetchPublicHistory, authenticate_bind]
  refine ((MessagingSvc.readOnly_requireGroupId _).keeps.mapError _).bind
    fun groupId => ?_
  refine ((keeps_led_requireParticipant groupId).mapError _).bind
    fun _ => ?_
  exact ((readOnly_read _).bind fun _ => readOnly_pure _).keeps

end Writes

namespace SessionCall

def caller : SessionCall → Option Uuid
  | .revokeDevice _ token _ => token.map (·.sub)
  | .banMember _ token _ => token.map (·.sub)
  | .unbanMember token _ => token.map (·.sub)
  | .kickMember _ token _ => token.map (·.sub)
  | .removeMembers _ token _ => token.map (·.sub)
  | _ => none

theorem step_led (crypto : AuthCrypto) (config : AuthConfig) (store : Store)
    (call : SessionCall) :
    Led store ⟨call.caller, none, none⟩ (call.step crypto config store) := by
  have led : Led store ⟨none, none, none⟩ store := .refl store _
  cases call with
  | register mint isLocal limited req =>
      exact AuthSvc.post_register crypto config mint isLocal limited req led
        fun row _ ordinary => createUser_led led ordinary
  | login mint req =>
      exact AuthSvc.keeps_login crypto mint req
        (fun _ led _ listed => issueSession_led led listed mint _) store led
  | loginWithKey mint req =>
      exact AuthSvc.keeps_loginWithKey crypto mint req
        (fun _ led _ listed => issueSession_led led listed mint _) store led
  | refreshToken mint token => exact refreshToken_led led mint token
  | revokeDevice now token deviceId =>
      cases token with
      | none => exact led
      | some claims =>
          exact keeps_led_revokeDevice now claims deviceId store (.refl _ _)
  | banMember decision token req =>
      cases token with
      | none => exact led
      | some claims =>
          exact banMember_led (.refl _ _) decision _ req
  | unbanMember token userId =>
      cases token with
      | none => exact led
      | some claims =>
          exact unbanMember_led (.refl _ _) _ userId
  | kickMember decision token req =>
      cases token with
      | none => exact led
      | some claims =>
          exact kickMember_led (.refl _ _) decision _ req
  | removeMembers decisions token req =>
      cases token with
      | none => exact led
      | some claims =>
          exact keeps_led_removeMembers decisions _ req store (.refl _ _)

end SessionCall

namespace GroupCall

def caller : GroupCall → Option Uuid
  | .createPublicGroup _ _ token _ => token.map (·.sub)
  | .createPrivateGroup _ token _ => token.map (·.sub)
  | .addMembers token _ => token.map (·.sub)
  | .removeMembers _ token _ => token.map (·.sub)
  | .kickMember _ token _ => token.map (·.sub)
  | .banMember _ token _ => token.map (·.sub)
  | .sendCommit _ token _ => token.map (·.sub)
  | .sendWelcome _ token _ => token.map (·.sub)
  | .openStream token => token.map (·.sub)
  | .closeStream _ => none

variable (server : Server)

theorem step_led (call : GroupCall) :
    Led server.store ⟨call.caller, none, none⟩ (call.step server).store := by
  have stays : ∀ deletes,
      Led server.store ⟨none, deletes, none⟩ server.store :=
    fun _ => .refl _ _
  cases call with
  | createPublicGroup decision fresh token req =>
      cases token with
      | none => exact stays _
      | some claims =>
          exact createPublicGroup_led decision fresh _ req server
  | createPrivateGroup bus token req =>
      cases token with
      | none => exact stays _
      | some claims =>
          exact createPrivateGroup_led bus _ req server
  | addMembers token req =>
      cases token with
      | none => exact stays _
      | some claims =>
          exact addMembers_led (.refl _ _) _ req
  | removeMembers decisions token req =>
      cases token with
      | none => exact stays _
      | some claims =>
          exact keeps_led_removeMembers decisions _ req server.store (.refl _ _)
  | kickMember decision token req =>
      cases token with
      | none => exact stays _
      | some claims =>
          exact kickMember_led (.refl _ _) decision _ req
  | banMember decision token req =>
      cases token with
      | none => exact stays _
      | some claims =>
          exact banMember_led (.refl _ _) decision _ req
  | sendCommit bus token req =>
      cases token with
      | none => exact stays _
      | some claims =>
          exact keeps_led_sendCommit bus claims req server (.refl _ _)
  | sendWelcome bus token req =>
      cases token with
      | none => exact stays _
      | some claims =>
          exact keeps_led_sendWelcome bus claims req server (.refl _ _)
  | openStream token =>
      cases token with
      | none => exact stays _
      | some claims =>
          exact keeps_led_openStream claims server (.refl _ _)
  | closeStream device => exact stays _

end GroupCall

namespace ServerCall

def caller : ServerCall → Option Uuid
  | .session call => call.caller
  | .role token _ => token.map (·.sub)
  | .group call => call.caller
  | .publicMessage _ _ _ userId _ => some userId
  | .privateMessage _ _ _ _ _ claims _ => some claims.sub
  | .voiceSignal userId _ => some userId
  | .voiceState claims _ => some claims.sub
  | .publicHistory token _ => token.map (·.sub)
  | .privateHistory token _ => token.map (·.sub)
  | .deleteGroup _ token _ => token.map (·.sub)
  | .reorderChannels token _ _ => token.map (·.sub)
  | .deleteCategory _ token _ => token.map (·.sub)
  | .createCategory _ token _ => token.map (·.sub)
  | .reorderCategories token _ => token.map (·.sub)
  | .updateTavern _ token => token.map (·.sub)
  | .updateProfile token _ _ => token.map (·.sub)
  | .elsewhere _ _ => none

/-- `DeleteGroup` is the call that asks to delete a group. -/
def deletes : ServerCall → Option Uuid
  | .deleteGroup _ _ groupId => groupId.bind IdText.parse
  | _ => none

/-- What a call does to tables that are not modelled. -/
def change : ServerCall → Option (Store → Store)
  | .elsewhere change _ => some change
  | _ => none

def request (call : ServerCall) : Request :=
  ⟨call.caller, call.deletes, call.change⟩

/-- Every call is a sequence of statements, each made with the authority it
takes. -/
theorem step_led (crypto : AuthCrypto) (config : AuthConfig)
    (server : Server) (call : ServerCall) :
    Led server.store call.request (step crypto config server call).store := by
  have stays : ∀ deletes,
      Led server.store ⟨none, deletes, none⟩ server.store :=
    fun _ => .refl _ _
  cases call with
  | session call => exact call.step_led crypto config server.store
  | role token call =>
      cases token with
      | none =>
          simp only [step, call.after_unauthenticated]
          exact stays _
      | some claims =>
          exact (Led.refl _ _).write (.role claims.sub call _ rfl
            (call.after_written claims server.store))
  | group call => exact call.step_led server
  | publicMessage bus draw fresh userId m =>
      simp only [step, MessagingSvc.handlePublicMessage_store]
      exact acceptPublicMessage_led (.refl _ _) draw fresh m
  | privateMessage bus codec singleInstance draw fresh claims m =>
      exact privateMessage_led bus codec singleInstance draw fresh claims m
        server
  | voiceSignal userId signal =>
      exact keeps_led_voiceSignal signal server.store (.refl _ _)
  | voiceState claims update =>
      exact keeps_led_voiceState claims update server (.refl _ _)
  | publicHistory token req =>
      cases token with
      | none => exact stays _
      | some claims =>
          exact keeps_led_publicHistory claims req server.store (.refl _ _)
  | privateHistory token req =>
      cases token with
      | none => exact stays _
      | some claims =>
          exact (readOnly_privateHistory _ req).keeps server.store (.refl _ _)
  | deleteGroup decision token groupId =>
      cases token with
      | none => exact stays _
      | some claims =>
          exact deleteGroup_led (.refl _ _) decision _
  | reorderChannels token categoryId groupIds =>
      cases token with
      | none => exact stays _
      | some claims =>
          exact reorderChannels_led (.refl _ _) _ categoryId groupIds
  | deleteCategory decision token id =>
      cases token with
      | none => exact stays _
      | some claims =>
          exact deleteCategory_led (.refl _ _) decision _ id
  | createCategory decision token name =>
      cases token with
      | none => exact stays _
      | some claims =>
          exact createCategory_led (.refl _ _) decision _ name
  | reorderCategories token categoryIds =>
      cases token with
      | none => exact stays _
      | some claims =>
          exact (readOnly_reorderCategories _ categoryIds).keeps server.store
            (.refl _ _)
  | updateTavern decision token =>
      cases token with
      | none => exact stays _
      | some claims => exact updateTavern_led (.refl _ _) decision _
  | updateProfile token displayName avatarUrl =>
      cases token with
      | none => exact stays _
      | some claims =>
          exact updateProfile_led (.refl _ _) _ displayName avatarUrl
  | elsewhere change frame =>
      exact (Led.refl _ _).write
        (.elsewhere change (frame server.store) rfl rfl)

end ServerCall

end Accord
