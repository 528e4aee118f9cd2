import Accord.Library.EventRun
import Accord.Server.Groups.Service

/-! Live delivery against membership: who may be subscribed to a group, over
runs of the calls that change either. -/

namespace Accord

namespace Store

/-- The device belongs to a current member of the group. -/
def MemberDevice (store : Store) (group device : Uuid) : Prop :=
  ∃ row ∈ store.devices,
    row.id = device ∧ store.isMember group row.userId = true

structure Grows (before after : Store) : Prop where
  devices : after.devices = before.devices
  members : ∀ group user, before.isMember group user = true →
    after.isMember group user = true

theorem Grows.refl (store : Store) : store.Grows store :=
  ⟨rfl, fun _ _ member => member⟩

theorem Grows.trans {first second third : Store}
    (grows : first.Grows second) (next : second.Grows third) :
    first.Grows third where
  devices := next.devices.trans grows.devices
  members := fun group user member =>
    next.members group user (grows.members group user member)

theorem SameMembers.grows {before after : Store}
    (same : before.SameMembers after) : before.Grows after where
  devices := same.devices
  members := by
    intro group user member
    rw [same.isMember]
    exact member

theorem MemberDevice.grows {before after : Store} {group device : Uuid}
    (member : before.MemberDevice group device)
    (grows : before.Grows after) : after.MemberDevice group device := by
  obtain ⟨row, listed, same, present⟩ := member
  exact ⟨row, grows.devices ▸ listed, same, grows.members _ _ present⟩

end Store

namespace Server

/-- Every subscribed device belongs to a member, and so does the device of
every channel that an event to the group is put to. -/
structure LiveConfined (server : Server) : Prop where
  subscribed : ∀ group device channel,
    server.registry.subscription group device = some channel →
    server.store.MemberDevice group device
  delivered : ∀ group message exclude channel offered,
    (channel, offered) ∈
      server.registry.deliverToGroup group message exclude →
    ∃ device, server.channels[channel]? = some device ∧
      server.store.MemberDevice group device

structure Confined (server : Server) : Prop where
  subscribed : ∀ group device channel,
    server.registry.subscription group device = some channel →
    server.store.MemberDevice group device
  owned : ∀ group device channel,
    server.registry.subscription group device = some channel →
    server.channels[channel]? = some device
  current : ∀ device channel,
    server.registry.senderOf device = some channel →
    server.channels[channel]? = some device

variable {server : Server}

private theorem Confined.liveConfined (confined : server.Confined) :
    server.LiveConfined where
  subscribed := confined.subscribed
  delivered := by
    intro group message exclude channel offered reached
    obtain ⟨_, device, subscribed, _⟩ :=
      Registry.mem_deliverToGroup.mp reached
    exact ⟨device, confined.owned group device channel subscribed,
      confined.subscribed group device channel subscribed⟩

private theorem confined_boot (store : Store) :
    ({ store } : Server).Confined where
  subscribed := by
    intro group device channel subscribed
    cases subscribed
  owned := by
    intro group device channel subscribed
    cases subscribed
  current := by
    intro device channel sender
    cases sender

theorem Confined.grows (confined : server.Confined) {store : Store}
    (grows : server.store.Grows store) :
    ({ server with store } : Server).Confined where
  subscribed := fun group device channel subscribed =>
    (confined.subscribed group device channel subscribed).grows grows
  owned := confined.owned
  current := confined.current

theorem Confined.subscribe (confined : server.Confined) {device group : Uuid}
    (member : server.registry.isConnected device = true →
      server.store.MemberDevice group device) :
    ({ server with
      registry := server.registry.subscribe device group } :
        Server).Confined := by
  cases sender : server.registry.senderOf device with
  | none =>
      rw [Registry.subscribe_disconnected _ _ _ sender]
      exact confined
  | some channel =>
      have connected : server.registry.isConnected device = true := by
        unfold Registry.senderOf at sender
        simp [Registry.isConnected, sender]
      constructor
      · intro target other found subscribed
        rw [Registry.subscription_subscribe _ _ sender] at subscribed
        split at subscribed
        · rename_i same
          rw [same.1, same.2]
          exact member connected
        · exact confined.subscribed target other found subscribed
      · intro target other found subscribed
        rw [Registry.subscription_subscribe _ _ sender] at subscribed
        split at subscribed
        · rename_i same
          cases subscribed
          rw [same.2]
          exact confined.current device _ sender
        · exact confined.owned target other found subscribed
      · intro other found current
        rw [Registry.senderOf_subscribe] at current
        exact confined.current other found current

theorem Confined.register (confined : server.Confined) {device : Uuid}
    {groups : List Uuid}
    (member : ∀ group ∈ groups, server.store.MemberDevice group device) :
    ({ server with
      registry := server.registry.register device groups
        server.channels.length
      channels := server.channels ++ [device] } : Server).Confined := by
  have kept {channel : ℕ} {other : Uuid}
      (before : server.channels[channel]? = some other) :
      (server.channels ++ [device])[channel]? = some other := by
    rw [List.getElem?_append_left
      (List.getElem?_eq_some_iff.mp before).1, before]
  have fresh : (server.channels ++ [device])[server.channels.length]? =
      some device := by
    simp
  constructor
  · intro group other channel subscribed
    rw [Registry.subscription_register] at subscribed
    split at subscribed
    · rename_i same
      rw [same.2]
      exact member group same.1
    · exact confined.subscribed group other channel subscribed
  · intro group other channel subscribed
    rw [Registry.subscription_register] at subscribed
    split at subscribed
    · rename_i same
      cases subscribed
      rw [same.2]
      exact fresh
    · exact kept (confined.owned group other channel subscribed)
  · intro other channel current
    rw [Registry.senderOf_register] at current
    split at current
    · rename_i same
      cases current
      rw [same]
      exact fresh
    · exact kept (confined.current other channel current)

theorem Confined.unregister (confined : server.Confined) (device : Uuid) :
    ({ server with registry := server.registry.unregister device } :
      Server).Confined := by
  have before {group other : Uuid} {channel : ℕ}
      (subscribed : (server.registry.unregister device).subscription group
        other = some channel) :
      server.registry.subscription group other = some channel := by
    rw [Registry.subscription_unregister] at subscribed
    split at subscribed
    · cases subscribed
    · exact subscribed
  constructor
  · intro group other channel subscribed
    exact confined.subscribed group other channel (before subscribed)
  · intro group other channel subscribed
    exact confined.owned group other channel (before subscribed)
  · intro other channel current
    rw [Registry.senderOf_unregister] at current
    split at current
    · cases current
    · exact confined.current other channel current

/-- No device of the user is subscribed to the group. -/
def Unsubscribed (registry : Registry ℕ) (group user : Uuid)
    (store : Store) : Prop :=
  ∀ row ∈ store.devices, row.userId = user →
    registry.subscription group row.id = none

theorem Unsubscribed.same {registry : Registry ℕ} {group user : Uuid}
    {before after : Store}
    (unsubscribed : Unsubscribed registry group user before)
    (devices : after.devices = before.devices) :
    Unsubscribed registry group user after := by
  intro row listed
  rw [devices] at listed
  exact unsubscribed row listed

theorem Confined.removeMember (confined : server.Confined)
    {group user : Uuid}
    (unsubscribed : Unsubscribed server.registry group user server.store) :
    ({ server with store := server.store.removeMember group user } :
      Server).Confined where
  subscribed := by
    intro target device channel subscribed
    obtain ⟨row, listed, rfl, member⟩ :=
      confined.subscribed target device channel subscribed
    refine ⟨row, listed, rfl, ?_⟩
    rw [Store.isMember_removeMember]
    refine ⟨member, ?_⟩
    intro same
    obtain ⟨rfl, removed⟩ := same
    have absent := unsubscribed row listed removed
    rw [absent] at subscribed
    cases subscribed
  owned := confined.owned
  current := confined.current

end Server

section Growing

open Effect

variable {start : Store}

private theorem keeps_grows_update {Error : Type} {change : Store → Store}
    (grows : ∀ store : Store, store.Grows (change store)) :
    (update change : Effect Store Error Unit).Keeps start.Grows :=
  fun store before => before.trans (grows store)

private theorem keeps_grows_addMember (groupId userId : Uuid) (role : String) :
    (Store.addMember groupId userId role).Keeps start.Grows := by
  refine (readOnly_check _ _).keeps.bind fun _ => keeps_grows_update ?_
  intro store
  split
  · exact .refl store
  · refine ⟨rfl, fun group user member => ?_⟩
    exact (Store.isMember_append store _ group user).mpr (.inl member)

private theorem keeps_grows_createPublicGroup (fresh : Uuid)
    (name description : String) (channelKind : ChannelKind)
    (categoryId : String) :
    (Store.createPublicGroup fresh name description channelKind
      categoryId).Keeps start.Grows := by
  refine (readOnly_check _ _).keeps.bind fun _ =>
    (keeps_grows_update ?_).bind fun _ => (readOnly_pure _).keeps
  intro store
  exact Store.SameMembers.grows ⟨rfl, rfl⟩

private theorem keeps_grows_createPrivateGroup (id : Uuid) (name : String) :
    (Store.createPrivateGroupWithId id name).Keeps start.Grows := by
  refine (readOnly_check _ _).keeps.bind fun _ => keeps_grows_update ?_
  intro store
  exact Store.SameMembers.grows ⟨rfl, rfl⟩

private theorem keeps_grows_enqueueInbox (device : Uuid) (kind : InboxKind)
    (group : Uuid) (payload : Bytes) :
    (Store.enqueueInbox device kind group payload).Keeps start.Grows := by
  refine (readOnly_check _ _).keeps.bind fun _ => keeps_grows_update ?_
  intro store
  exact Store.SameMembers.grows ⟨rfl, rfl⟩

private theorem same_recordAudit (store : Store) (actor : Uuid)
    (action target outcome reason : String)
    (same : start.SameMembers store) :
    start.SameMembers
      (store.recordAudit actor action target outcome reason) :=
  ⟨same.devices, same.members⟩

private theorem keeps_grows_guard (decision : GuardrailDecision) (actor : Uuid)
    (action : ActionClass) (target : String) :
    (GroupSvc.guard decision actor action target).Keeps start.Grows := by
  apply GroupSvc.keeps_guard
  intro store _ _ _ _ _ grows
  exact grows.trans (Store.SameMembers.grows ⟨rfl, rfl⟩)

private theorem keeps_grows_enrol (groupId : Uuid) (member : IdText) :
    (GroupSvc.enrol groupId member).Keeps start.Grows := by
  refine (readOnly_ofOption _ _).keeps.bind fun userId => ?_
  exact (keeps_grows_addMember groupId userId "member").mapError _

private theorem keeps_grows_addMemberById (groupId : Uuid) (member : IdText) :
    (GroupSvc.addMemberById groupId member).Keeps start.Grows := by
  refine (readOnly_ofOption _ _).keeps.bind fun userId => ?_
  refine (readOnly_check _ _).keeps.bind fun _ => ?_
  refine (readOnly_check _ _).keeps.bind fun _ => ?_
  exact (keeps_grows_addMember groupId userId "member").mapError _

theorem readOnly_getGroup (groupId : Uuid) :
    (Store.getGroup groupId).ReadOnly :=
  readOnly_require _ _

private theorem keeps_grows_addMembers (token : Option Claims)
    (req : GroupSvc.AddMembersRequest) :
    (GroupSvc.addMembers token req).Keeps start.Grows := by
  refine (readOnly_authenticate _).keeps.bind fun claims => ?_
  refine (readOnly_check _ _).keeps.bind fun _ => ?_
  refine (GroupSvc.readOnly_requireGroupId _).keeps.bind fun groupId => ?_
  refine ((readOnly_getGroup groupId).keeps.mapError _).bind fun group => ?_
  refine (readOnly_check _ _).keeps.bind fun _ => ?_
  exact keeps_forEach (keeps_grows_addMemberById groupId) req.memberIds

private theorem addMember_isMember (groupId userId : Uuid) (role : String)
    (store : Store) :
    (Store.addMember groupId userId role).Post store fun result after =>
      result = .ok () → after.isMember groupId userId = true := by
  refine (readOnly_check _ _).post_bind (fun _ _ => nofun) ?_
  intro _ _
  apply post_update
  intro _
  split
  · rename_i member
    exact member
  · exact (Store.isMember_append store _ groupId userId).mpr
      (.inr ⟨rfl, rfl⟩)

end Growing

inductive GroupCall where
  | createPublicGroup (decision : GuardrailDecision) (fresh : Uuid)
      (token : Option Claims) (req : GroupSvc.CreatePublicGroupRequest)
  | createPrivateGroup (bus : Bus) (token : Option Claims)
      (req : GroupSvc.CreatePrivateGroupRequest)
  | addMembers (token : Option Claims) (req : GroupSvc.AddMembersRequest)
  | removeMembers (decisions : ℕ → GuardrailDecision)
      (token : Option Claims) (req : GroupSvc.RemoveMembersRequest)
  | kickMember (decision : GuardrailDecision) (token : Option Claims)
      (req : GroupSvc.KickMemberRequest)
  | banMember (decision : GuardrailDecision) (token : Option Claims)
      (req : GroupSvc.BanMemberRequest)
  | sendCommit (bus : Bus) (token : Option Claims)
      (req : MlsRelaySvc.SendCommitRequest)
  | sendWelcome (bus : Bus) (token : Option Claims)
      (req : MlsRelaySvc.SendWelcomeRequest)
  | openStream (token : Option Claims)
  | closeStream (device : Uuid)

namespace GroupCall

open Server

def step (server : Server) : GroupCall → Server
  | .createPublicGroup decision fresh token req =>
      (GroupSvc.createPublicGroup decision fresh token req server).2
  | .createPrivateGroup bus token req =>
      (GroupSvc.createPrivateGroup bus token req server).2
  | .addMembers token req => (onStore (GroupSvc.addMembers token req) server).2
  | .removeMembers decisions token req =>
      (onStore (GroupSvc.removeMembers decisions token req) server).2
  | .kickMember decision token req =>
      (onStore (GroupSvc.kickMember decision token req) server).2
  | .banMember decision token req =>
      (onStore (GroupSvc.banMember decision token req) server).2
  | .sendCommit bus token req => (MlsRelaySvc.sendCommit bus token req server).2
  | .sendWelcome bus token req =>
      (MlsRelaySvc.sendWelcome bus token req server).2
  | .openStream token => (MessagingSvc.openStream token server).2
  | .closeStream device => (unregister device server).2

/-- The token was issued to a device of its user. -/
def Authentic (store : Store) (token : Option Claims) : Prop :=
  ∀ claims, token = some claims → ∃ row ∈ store.devices,
    row.id = claims.deviceId ∧ row.userId = claims.sub

/-- A Welcome that is relayed to a connected device goes to a member's. -/
def WelcomesMember (bus : Bus) (group : Uuid) (target : WelcomeTarget)
    (server : Server) : Prop :=
  ∀ device, target.deviceId.bind IdText.parse = some device →
    server.store.referencesHold (server.store.hasDevice device) = true →
    bus (.welcome device group target.welcome) = .ok () →
    server.registry.isConnected device = true →
    server.store.MemberDevice group device

/-- Whoever is removed in this turn has no device subscribed to the group. -/
def RemovesUnsubscribed (registry : Registry ℕ)
    (decisions : ℕ → GuardrailDecision) (caller group : Uuid)
    (entry : IdText × ℕ) (store : Store) : Prop :=
  ∀ user, entry.1.parse = some user →
    (GroupSvc.permitRemoval (decisions entry.2) caller user store).1 =
      .ok () →
    Unsubscribed registry group user store

/-- Tokens are authentic, nobody is removed from a group one of their devices
is subscribed to, and no Welcome subscribes a device of a non-member. -/
def Lawful (server : Server) : GroupCall → Prop
  | .createPublicGroup _ _ token _ => Authentic server.store token
  | .createPrivateGroup bus token req =>
      Authentic server.store token ∧ ∀ claims group after,
        token = some claims →
        req.groupId.bind IdText.parse = some group →
        onStore (GroupSvc.adoptGroup claims.sub group req.name req.memberIds)
          server = (.ok (), after) →
        Effect.Along (MlsRelaySvc.relayWelcome bus group)
          (WelcomesMember bus group) req.welcomes after
  | .addMembers _ _ => True
  | .removeMembers decisions token req => ∀ claims group,
      token = some claims → req.groupId.bind IdText.parse = some group →
      Effect.Along
        (fun entry => GroupSvc.removeListed (decisions entry.2) claims.sub
          group entry.1)
        (RemovesUnsubscribed server.registry decisions claims.sub group)
        req.memberIds.zipIdx server.store
  | .kickMember decision token req => ∀ claims group target,
      token = some claims → req.groupId.bind IdText.parse = some group →
      req.userId.bind IdText.parse = some target →
      (GroupSvc.permitKick decision claims.sub target server.store).1 =
        .ok () →
      Unsubscribed server.registry group target server.store
  | .banMember decision token req => ∀ claims target,
      token = some claims → req.userId.bind IdText.parse = some target →
      (GroupSvc.permitBan decision claims.sub target server.store).1 =
        .ok () →
      ∀ group ∈ server.store.groupIdsForUser target,
        Unsubscribed server.registry group target server.store
  | .sendCommit bus token req => ∀ claims group,
      token = some claims → req.groupId.bind IdText.parse = some group →
      server.store.isMember group claims.sub = true →
      bus (.commit group req.commit 0 claims.deviceId) = .ok () →
      Effect.Along (MlsRelaySvc.relayWelcome bus group)
        (WelcomesMember bus group) req.welcomes server
  | .sendWelcome bus token req => ∀ claims group,
      token = some claims → req.groupId.bind IdText.parse = some group →
      Effect.Along (MlsRelaySvc.relayWelcome bus group)
        (WelcomesMember bus group) req.welcomes server
  | .openStream token => Authentic server.store token
  | .closeStream _ => True

/-! What each call keeps. -/

open Effect

def Held (start : Store) (server : Server) : Prop :=
  server.Confined ∧ start.Grows server.store

variable {start : Store} {server : Server}

private theorem keeps_held_onStore {Value : Type}
    {inner : Effect Store Status Value}
    (growing : ∀ before : Store, inner.Keeps before.Grows) :
    (onStore inner).Keeps (Held start) := by
  intro server held
  have grows := growing server.store server.store (.refl _)
  exact ⟨held.1.grows grows, held.2.trans grows⟩

private theorem readOnly_publish (bus : Bus) (event : BusEvent) :
    (publish bus event).ReadOnly :=
  fun _ => rfl

private theorem publish_ok {bus : Bus} {event : BusEvent} {value : Unit}
    (published : (publish bus event server).1 = .ok value) :
    bus event = .ok () := by
  exact mapError_ok published

private theorem readOnly_requireDevice (target : WelcomeTarget) :
    (MlsRelaySvc.requireDevice target).ReadOnly :=
  (readOnly_ofOption _ _).bind fun _ => readOnly_ofOption _ _

private theorem requireDevice_ok {target : WelcomeTarget} {device : Uuid}
    (parsed : (MlsRelaySvc.requireDevice target server).1 = .ok device) :
    target.deviceId.bind IdText.parse = some device := by
  cases named : target.deviceId with
  | none =>
      unfold MlsRelaySvc.requireDevice at parsed
      rw [named] at parsed
      cases parsed
  | some text =>
      unfold MlsRelaySvc.requireDevice at parsed
      rw [named] at parsed
      exact ofOption_ok parsed

private theorem enqueueInbox_ok {device group : Uuid} {kind : InboxKind}
    {payload : Bytes} {store : Store} {value : Unit}
    (queued : (Store.enqueueInbox device kind group payload store).1 =
      .ok value) :
    store.referencesHold (store.hasDevice device) = true := by
  obtain ⟨_, _, passed, _⟩ := bind_ok queued
  exact check_ok (congrArg Prod.fst passed)

private theorem relayWelcome_held {bus : Bus} {group : Uuid}
    {target : WelcomeTarget}
    (held : Held start server)
    (welcomes : WelcomesMember bus group target server) :
    (MlsRelaySvc.relayWelcome bus group target).Post server
      fun _ after => Held start after := by
  refine (readOnly_requireDevice target).post_bind (fun _ _ => held) ?_
  intro device parsed
  have stored : (onStore (orStatus (Store.enqueueInbox device .welcome group
      target.welcome))).Post server fun result after =>
        (Held start after ∧ Held server.store after) ∧
        after.registry = server.registry ∧ (result = .ok () →
          server.store.referencesHold (server.store.hasDevice device) =
            true) := by
    have growing (before : Store) : (orStatus (Store.enqueueInbox device
        .welcome group target.welcome)).Keeps before.Grows :=
      (keeps_grows_enqueueInbox device .welcome group
        target.welcome).mapError _
    exact ⟨⟨keeps_held_onStore growing server held,
      keeps_held_onStore growing server ⟨held.1, .refl _⟩⟩, rfl,
      fun queued => enqueueInbox_ok (mapError_ok queued)⟩
  refine post_bind stored (fun _ _ holds => holds.1.1) ?_
  intro _ middle holds
  obtain ⟨⟨heldMiddle, grown⟩, registry, references⟩ := holds
  refine (readOnly_publish bus _).post_bind (fun _ _ => heldMiddle) ?_
  intro _ published
  refine post_update ⟨heldMiddle.1.subscribe ?_, heldMiddle.2⟩
  intro connected
  rw [registry] at connected
  exact (welcomes device (requireDevice_ok parsed) (references rfl)
    (publish_ok published) connected).grows grown.2

private theorem relayAll_held {bus : Bus} {group : Uuid}
    {targets : List WelcomeTarget} (held : Held start server)
    (along : Along (MlsRelaySvc.relayWelcome bus group)
      (WelcomesMember bus group) targets server) :
    (forEach (MlsRelaySvc.relayWelcome bus group) targets).Post server
      fun _ after => Held start after :=
  post_forEach_along
    (fun _ _ before welcomes => relayWelcome_held before welcomes) along held

private theorem sendWelcome_confined {bus : Bus} {token : Option Claims}
    {req : MlsRelaySvc.SendWelcomeRequest} (confined : server.Confined)
    (lawful : Lawful server (.sendWelcome bus token req)) :
    (step server (.sendWelcome bus token req)).Confined := by
  have kept : (MlsRelaySvc.sendWelcome bus token req).Post server
      fun _ after => after.Confined := by
    refine post_authenticate (fun _ => confined) ?_
    intro claims accepted
    refine (readOnly_onStore (GroupSvc.readOnly_requireGroupId _)).post_bind
      (fun _ _ => confined) ?_
    intro group parsed
    have along := lawful claims group accepted
      (GroupSvc.requireGroupId_ok parsed)
    exact (relayAll_held ⟨confined, .refl _⟩ along).imp
      fun _ _ held => held.1
  exact kept

private theorem sendCommit_confined {bus : Bus} {token : Option Claims}
    {req : MlsRelaySvc.SendCommitRequest} (confined : server.Confined)
    (lawful : Lawful server (.sendCommit bus token req)) :
    (step server (.sendCommit bus token req)).Confined := by
  have kept : (MlsRelaySvc.sendCommit bus token req).Post server
      fun _ after => after.Confined := by
    refine post_authenticate (fun _ => confined) ?_
    intro claims accepted
    refine (readOnly_onStore (GroupSvc.readOnly_requireGroupId _)).post_bind
      (fun _ _ => confined) ?_
    intro group parsed
    refine (readOnly_onStore (readOnly_check _ _)).post_bind
      (fun _ _ => confined) ?_
    intro _ member
    refine (readOnly_publish bus _).post_bind (fun _ _ => confined) ?_
    intro _ published
    have along := lawful claims group accepted
      (GroupSvc.requireGroupId_ok parsed) (check_ok member)
      (publish_ok published)
    exact (relayAll_held ⟨confined, .refl _⟩ along).imp
      fun _ _ held => held.1
  exact kept

private theorem subscribe_held {claims : Claims} {group : Uuid}
    (held : Held start server) (authentic : Authentic start (some claims))
    (member : server.store.isMember group claims.sub = true) :
    (subscribe claims.deviceId group).Post server
      fun _ after => Held start after := by
  refine post_update ⟨held.1.subscribe fun _ => ?_, held.2⟩
  obtain ⟨row, listed, device, user⟩ := authentic claims rfl
  refine ⟨row, ?_, device, ?_⟩
  · rw [held.2.devices]
    exact listed
  · rw [user]
    exact member

private theorem createPublicGroup_confined {decision : GuardrailDecision}
    {fresh : Uuid} {token : Option Claims}
    {req : GroupSvc.CreatePublicGroupRequest} (confined : server.Confined)
    (lawful : Lawful server
      (.createPublicGroup decision fresh token req)) :
    (step server (.createPublicGroup decision fresh token req)).Confined := by
  have kept : (GroupSvc.createPublicGroup decision fresh token req).Post
      server fun _ after => after.Confined := by
    refine post_authenticate (fun _ => confined) ?_
    intro claims accepted
    have authentic : Authentic server.store (some claims) :=
      accepted ▸ lawful
    refine (readOnly_check _ _).post_bind (fun _ _ => confined) ?_
    intro _ _
    refine (readOnly_onStore (Authz.readOnly_require _ _)).post_bind
      (fun _ _ => confined) ?_
    intro _ _
    have unchanged : Held server.store server := ⟨confined, .refl _⟩
    refine (keeps_held_onStore
      fun _ => keeps_grows_guard _ _ _ _).post_bind unchanged
      (fun _ _ held => held.1) ?_
    intro _ guarded held
    refine (keeps_held_onStore fun _ =>
      (keeps_grows_createPublicGroup _ _ _ _ _).mapError _).post_bind held
      (fun _ _ held => held.1) ?_
    intro group created held
    have added : (onStore (orStatus (Store.addMember group claims.sub
        "owner"))).Post created fun result after =>
          Held server.store after ∧ (result = .ok () →
            after.store.isMember group claims.sub = true) :=
      ⟨keeps_held_onStore (fun _ => (keeps_grows_addMember _ _ _).mapError _)
        created held,
        fun joined => addMember_isMember group claims.sub "owner"
          created.store (mapError_ok joined)⟩
    refine post_bind added (fun _ _ holds => holds.1.1) ?_
    intro _ joined holds
    refine post_bind (subscribe_held holds.1 authentic (holds.2 rfl))
      (fun _ _ held => held.1) ?_
    intro _ subscribed held
    exact post_pure held.1
  exact kept

private theorem enrolAll_isMember {groupId creator : Uuid}
    (members : List IdText)
    {store : Store} (member : store.isMember groupId creator = true) :
    (forEach (GroupSvc.enrol groupId) members store).2.isMember groupId
      creator = true := by
  have kept : (forEach (GroupSvc.enrol groupId) members).Keeps store.Grows :=
    keeps_forEach (keeps_grows_enrol groupId) members
  exact (kept store (.refl store)).members groupId creator member

private theorem adoptGroup_isMember (creator groupId : Uuid) (name : String)
    (members : List IdText) (store : Store) :
    (GroupSvc.adoptGroup creator groupId name members).Post store
      fun result after => result = .ok () →
        after.isMember groupId creator = true := by
  have created : (orStatus (Store.createPrivateGroupWithId groupId
      (GroupSvc.privateGroupName name))).Post store fun _ _ => True := trivial
  refine post_bind created (fun _ _ _ => nofun) ?_
  intro _ middle _
  have added : (orStatus (Store.addMember groupId creator "owner")).Post
      middle fun result after =>
        result = .ok () → after.isMember groupId creator = true :=
    fun joined => addMember_isMember groupId creator "owner" middle
      (mapError_ok joined)
  refine post_bind added (fun _ _ _ => nofun) ?_
  intro _ joined member _
  exact enrolAll_isMember members (member rfl)

private theorem keeps_grows_adoptGroup (creator groupId : Uuid) (name : String)
    (members : List IdText) :
    (GroupSvc.adoptGroup creator groupId name members).Keeps start.Grows := by
  refine ((keeps_grows_createPrivateGroup _ _).mapError _).bind fun _ => ?_
  refine ((keeps_grows_addMember _ _ _).mapError _).bind fun _ => ?_
  exact keeps_forEach (keeps_grows_enrol groupId) members

private theorem createPrivateGroup_confined {bus : Bus} {token : Option Claims}
    {req : GroupSvc.CreatePrivateGroupRequest} (confined : server.Confined)
    (lawful : Lawful server (.createPrivateGroup bus token req)) :
    (step server (.createPrivateGroup bus token req)).Confined := by
  have kept : (GroupSvc.createPrivateGroup bus token req).Post server
      fun _ after => after.Confined := by
    refine post_authenticate (fun _ => confined) ?_
    intro claims accepted
    have authentic : Authentic server.store (some claims) :=
      accepted ▸ lawful.1
    refine (readOnly_onStore (GroupSvc.readOnly_requireGroupId _)).post_bind
      (fun _ _ => confined) ?_
    intro group parsed
    have adopted : (onStore (GroupSvc.adoptGroup claims.sub group req.name
        req.memberIds)).Post server fun result after =>
          Held server.store after ∧ (result = .ok () →
            after.store.isMember group claims.sub = true ∧
            onStore (GroupSvc.adoptGroup claims.sub group req.name
              req.memberIds) server = (.ok (), after)) :=
      ⟨keeps_held_onStore (fun _ => keeps_grows_adoptGroup _ _ _ _) server
        ⟨confined, .refl _⟩, fun finished =>
        ⟨adoptGroup_isMember claims.sub group req.name req.memberIds
          server.store finished, Prod.ext finished rfl⟩⟩
    refine post_bind adopted (fun _ _ holds => holds.1.1) ?_
    intro _ middle holds
    obtain ⟨held, finished⟩ := holds
    obtain ⟨member, ran⟩ := finished rfl
    have along := lawful.2 claims group middle accepted
      (GroupSvc.requireGroupId_ok parsed) ran
    have relayed : (forEach (MlsRelaySvc.relayWelcome bus group)
        req.welcomes).Post middle fun _ after => Held middle.store after :=
      relayAll_held ⟨held.1, .refl _⟩ along
    refine post_bind relayed (fun _ _ held => held.1) ?_
    intro _ welcomed grown
    have heldAfter : Held server.store welcomed :=
      ⟨grown.1, held.2.trans grown.2⟩
    refine post_bind (subscribe_held heldAfter authentic
      (grown.2.members _ _ member)) (fun _ _ held => held.1) ?_
    intro _ subscribed after
    exact post_pure after.1
  exact kept

/-- The check before a removal: its result, and that it changes nothing that
matters here. -/
private theorem permit_post {permit : Effect Store Status Unit} {store : Store}
    (same : ∀ before : Store, permit.Keeps before.SameMembers) :
    permit.Post store fun result after =>
      (permit store).1 = result ∧ store.SameMembers after :=
  ⟨rfl, same store store (.refl store)⟩

private theorem removeListed_confined {decision : GuardrailDecision}
    {caller group : Uuid} {member : IdText} {store : Store}
    (confined : ({ server with store } : Server).Confined)
    (unsubscribed : ∀ user, member.parse = some user →
      (GroupSvc.permitRemoval decision caller user store).1 = .ok () →
      Unsubscribed server.registry group user store) :
    (GroupSvc.removeListed decision caller group member).Post store
      fun _ after => ({ server with store := after } : Server).Confined := by
  refine (readOnly_ofOption _ _).post_bind (fun _ _ => confined) ?_
  intro user parsed
  refine post_bind (permit_post fun _ =>
      GroupSvc.keeps_permitRemoval same_recordAudit _ _ _)
    (fun _ _ permitted => confined.grows permitted.2.grows) ?_
  intro _ middle permitted
  have still := (unsubscribed user (ofOption_ok parsed) permitted.1).same
    permitted.2.devices
  have kept := confined.grows permitted.2.grows
  exact post_update (kept.removeMember still)

private theorem removeMembers_confined {decisions : ℕ → GuardrailDecision}
    {token : Option Claims} {req : GroupSvc.RemoveMembersRequest}
    (confined : server.Confined)
    (lawful : Lawful server (.removeMembers decisions token req)) :
    (step server (.removeMembers decisions token req)).Confined := by
  have kept : (GroupSvc.removeMembers decisions token req).Post server.store
      fun _ after => ({ server with store := after } : Server).Confined := by
    refine post_authenticate (fun _ => confined) ?_
    intro claims accepted
    refine (GroupSvc.readOnly_requireGroupId _).post_bind
      (fun _ _ => confined) ?_
    intro group parsed
    have along := lawful claims group accepted
      (GroupSvc.requireGroupId_ok parsed)
    exact post_forEach_along
      (fun entry before held removes => removeListed_confined held removes)
      along confined
  exact kept

private theorem kickMember_confined {decision : GuardrailDecision}
    {token : Option Claims} {req : GroupSvc.KickMemberRequest}
    (confined : server.Confined)
    (lawful : Lawful server (.kickMember decision token req)) :
    (step server (.kickMember decision token req)).Confined := by
  have kept : (GroupSvc.kickMember decision token req).Post server.store
      fun _ after => ({ server with store := after } : Server).Confined := by
    refine post_authenticate (fun _ => confined) ?_
    intro claims accepted
    refine (GroupSvc.readOnly_requireGroupId _).post_bind
      (fun _ _ => confined) ?_
    intro group parsedGroup
    refine (GroupSvc.readOnly_requireUserId _).post_bind
      (fun _ _ => confined) ?_
    intro target parsedUser
    refine post_bind (permit_post fun _ =>
      GroupSvc.keeps_permitKick same_recordAudit _ _ _)
      (fun _ _ permitted => confined.grows permitted.2.grows) ?_
    intro _ middle permitted
    have still := (lawful claims group target accepted
      (GroupSvc.requireGroupId_ok parsedGroup)
      (GroupSvc.requireUserId_ok parsedUser) permitted.1).same
        permitted.2.devices
    have kept := confined.grows permitted.2.grows
    exact post_update (kept.removeMember still)
  exact kept

private theorem banMember_confined {decision : GuardrailDecision}
    {token : Option Claims} {req : GroupSvc.BanMemberRequest}
    (confined : server.Confined)
    (lawful : Lawful server (.banMember decision token req)) :
    (step server (.banMember decision token req)).Confined := by
  have kept : (GroupSvc.banMember decision token req).Post server.store
      fun _ after => ({ server with store := after } : Server).Confined := by
    refine post_authenticate (fun _ => confined) ?_
    intro claims accepted
    refine (GroupSvc.readOnly_requireUserId _).post_bind
      (fun _ _ => confined) ?_
    intro target parsed
    refine post_bind (permit_post fun _ =>
      GroupSvc.keeps_permitBan same_recordAudit _ _ _)
      (fun _ _ permitted => confined.grows permitted.2.grows) ?_
    intro _ middle permitted
    have unsubscribed := lawful claims target accepted
      (GroupSvc.requireUserId_ok parsed) permitted.1
    refine (readOnly_read _).post_bind nofun ?_
    intro groups viewed
    cases viewed
    have removed : (forEach (GroupSvc.removeMember · target)
        (middle.groupIdsForUser target)).Post middle fun _ after =>
          ({ server with store := after } : Server).Confined ∧
            after.devices = server.store.devices := by
      refine post_forEach ?_
        ⟨confined.grows permitted.2.grows, permitted.2.devices⟩
      intro group listed before held
      have mine : group ∈ server.store.groupIdsForUser target := by
        rw [permitted.2.groupIdsForUser] at listed
        exact listed
      exact post_update ⟨held.1.removeMember
        ((unsubscribed group mine).same held.2), held.2⟩
    refine post_bind removed (fun _ _ held => held.1) ?_
    intro _ after held
    refine post_update (held.1.grows ?_)
    unfold Store.banUser
    split <;> exact Store.SameMembers.grows ⟨rfl, rfl⟩
  exact kept

private theorem openStream_confined {token : Option Claims}
    (confined : server.Confined)
    (lawful : Lawful server (.openStream token)) :
    (step server (.openStream token)).Confined := by
  have kept : (MessagingSvc.openStream token).Post server
      fun _ after => after.Confined := by
    refine post_authenticate (fun _ => confined) ?_
    intro claims accepted
    obtain ⟨row, listed, device, user⟩ :=
      lawful claims accepted
    refine (readOnly_onStore (readOnly_read _)).post_bind nofun ?_
    intro groups viewed
    cases viewed
    have member : ∀ group ∈ server.store.groupIdsForUser claims.sub,
        server.store.MemberDevice group claims.deviceId := by
      intro group mine
      refine ⟨row, listed, device, ?_⟩
      rw [user]
      exact Store.mem_groupIdsForUser.mp mine
    have registered := confined.register member
    refine post_update_bind (post_zoom (post_update ?_))
    exact registered.grows (Store.SameMembers.grows ⟨rfl, rfl⟩)
  exact kept

private theorem step_confined (server : Server) (call : GroupCall)
    (confined : server.Confined) (lawful : Lawful server call) :
    (step server call).Confined := by
  cases call with
  | createPublicGroup decision fresh token req =>
      exact createPublicGroup_confined confined lawful
  | createPrivateGroup bus token req =>
      exact createPrivateGroup_confined confined lawful
  | addMembers token req =>
      have held : Held server.store server := ⟨confined, .refl _⟩
      exact (keeps_held_onStore
        (fun _ => keeps_grows_addMembers token req) server held).1
  | removeMembers decisions token req =>
      exact removeMembers_confined confined lawful
  | kickMember decision token req => exact kickMember_confined confined lawful
  | banMember decision token req => exact banMember_confined confined lawful
  | sendCommit bus token req => exact sendCommit_confined confined lawful
  | sendWelcome bus token req => exact sendWelcome_confined confined lawful
  | openStream token => exact openStream_confined confined lawful
  | closeStream device => exact confined.unregister device

/-- Live delivery is confined to members in every state of every lawful run
of a server. -/
theorem liveConfined_of_lawful (store : Store) (calls : List GroupCall)
    (lawful : EventRun.Each step Lawful { store } calls) :
    EventRun.Always step LiveConfined { store } calls :=
  (EventRun.always_of_step step_confined (confined_boot store) lawful).imp
    fun _ confined => confined.liveConfined

/-- An owner and a member of group 5, and a user of no group. -/
def hubStore : Store where
  users := [⟨1, "owner", "Owner", "", true, false, none, ""⟩,
    ⟨2, "member", "Member", "", false, false, none, ""⟩,
    ⟨3, "other", "Other", "", false, false, none, ""⟩]
  devices := [⟨10, 1, "desktop", none⟩, ⟨20, 2, "phone", none⟩,
    ⟨30, 3, "tablet", none⟩]
  groups := [⟨5, "general", "", .pub, .text, "", 0⟩]
  groupMembers := [⟨5, 1, "owner"⟩, ⟨5, 2, "member"⟩]

/-- A member is kicked after their device has disconnected. -/
def politeKick : List GroupCall := [
  .openStream (some ⟨1, 10⟩), .openStream (some ⟨2, 20⟩), .closeStream 20,
  .kickMember .allow (some ⟨1, 10⟩) ⟨some (.uuid 5), some (.uuid 2)⟩]

theorem politeKick_liveConfined :
    EventRun.Always step LiveConfined { store := hubStore } politeKick ∧
      (EventRun.run step { store := hubStore } politeKick).store.isMember 5
        2 = false := by
  refine ⟨liveConfined_of_lawful hubStore politeKick ?_, by decide⟩
  refine ⟨?_, ?_, trivial, ?_, trivial⟩
  · intro claims issued
    cases issued
    exact ⟨⟨10, 1, "desktop", none⟩, by decide, rfl, rfl⟩
  · intro claims issued
    cases issued
    exact ⟨⟨20, 2, "phone", none⟩, by decide, rfl, rfl⟩
  · intro claims group target issued named user _
    cases issued
    cases named
    cases user
    unfold Unsubscribed
    decide

def rudeKick : List GroupCall := [
  .openStream (some ⟨2, 20⟩),
  .kickMember .allow (some ⟨1, 10⟩) ⟨some (.uuid 5), some (.uuid 2)⟩]

/-- A user welcomes their own device to a group they are not in. -/
def selfWelcome : List GroupCall := [
  .openStream (some ⟨3, 30⟩),
  .sendWelcome (fun _ => .ok ()) (some ⟨3, 30⟩)
    ⟨some (.uuid 5), [⟨some (.uuid 30), []⟩]⟩]

theorem kick_leaves_subscribed :
    ¬ EventRun.Always step LiveConfined { store := hubStore } rudeKick ∧
      ¬ EventRun.Always step LiveConfined { store := hubStore }
        selfWelcome := by
  constructor
  · intro always
    obtain ⟨row, listed, same, member⟩ :=
      always.last.subscribed 5 20 0 (by decide)
    have only : ∀ row ∈ hubStore.devices, row.id = 20 → row.userId = 2 := by
      decide
    rw [only row listed same] at member
    exact absurd member (by decide)
  · intro always
    obtain ⟨row, listed, same, member⟩ :=
      always.last.subscribed 5 30 0 (by decide)
    have only : ∀ row ∈ hubStore.devices, row.id = 30 → row.userId = 3 := by
      decide
    rw [only row listed same] at member
    exact absurd member (by decide)

end GroupCall

end Accord
