import Accord.Library.EventRun
import Accord.Server.Messaging.Service

/-! Plaintext and ciphertext.  Public messages belong to public groups and
private ones to private groups, as long as nobody sends the wrong kind of
message to a group they are in already: the membership test does not ask which
kind the group is. -/

namespace Accord

structure Chat where
  server : Server
  published : List PublicBusMessage := []

inductive ChatCall where
  | createPublicGroup (decision : GuardrailDecision) (fresh : Uuid)
      (token : Option Claims) (req : GroupSvc.CreatePublicGroupRequest)
  | createPrivateGroup (bus : Bus) (token : Option Claims)
      (req : GroupSvc.CreatePrivateGroupRequest)
  | publicMessage (bus : Bus) (draw : RowDraw) (fresh userId : Uuid)
      (m : SendPublicMessage)
  | privateMessage (bus : Bus) (codec : InboxCodec) (singleInstance : Bool)
      (draw : RowDraw) (fresh : Uuid) (claims : Claims)
      (m : SendPrivateMessage)

namespace ChatCall

def broadcast (store : Store) : ChatCall → List PublicBusMessage
  | .publicMessage _ draw fresh userId m =>
      (MessagingSvc.acceptPublicMessage draw fresh userId m
        store).1.toOption.toList
  | _ => []

def after (server : Server) : ChatCall → Server
  | .createPublicGroup decision fresh token req =>
      (GroupSvc.createPublicGroup decision fresh token req server).2
  | .createPrivateGroup bus token req =>
      (GroupSvc.createPrivateGroup bus token req server).2
  | .publicMessage bus draw fresh userId m =>
      (MessagingSvc.handlePublicMessage bus draw fresh userId m server).2
  | .privateMessage bus codec singleInstance draw fresh claims m =>
      (MessagingSvc.handlePrivateMessage bus codec singleInstance draw fresh
        claims m server).2

def step (chat : Chat) (call : ChatCall) : Chat where
  server := call.after chat.server
  published := chat.published ++ call.broadcast chat.server.store

end ChatCall

namespace Store

structure Apart (store : Store) : Prop where
  pub : ∀ row ∈ store.publicMessages, store.kindOf row.groupId = some .pub
  priv : ∀ row ∈ store.privateMessages, store.kindOf row.groupId = some .priv

/-- No message is added, and no group loses its kind. -/
structure SameMessages (before after : Store) : Prop where
  kinds : ∀ groupId kind, before.kindOf groupId = some kind →
    after.kindOf groupId = some kind
  pub : after.publicMessages = before.publicMessages
  priv : after.privateMessages = before.privateMessages

namespace SameMessages

theorem refl (store : Store) : store.SameMessages store :=
  ⟨fun _ _ known => known, rfl, rfl⟩

theorem trans {first second third : Store}
    (same : first.SameMessages second) (next : second.SameMessages third) :
    first.SameMessages third where
  kinds groupId kind known :=
    next.kinds groupId kind (same.kinds groupId kind known)
  pub := next.pub.trans same.pub
  priv := next.priv.trans same.priv

private theorem of_groups {before after : Store}
    (groups : after.groups = before.groups)
    (pub : after.publicMessages = before.publicMessages)
    (priv : after.privateMessages = before.privateMessages) :
    before.SameMessages after where
  kinds := by
    intro groupId kind known
    simp only [kindOf, groups]
    exact known
  pub := pub
  priv := priv

theorem apart {before after : Store} (same : before.SameMessages after)
    (apart : before.Apart) : after.Apart where
  pub := by
    intro row listed
    rw [same.pub] at listed
    exact same.kinds _ _ (apart.pub row listed)
  priv := by
    intro row listed
    rw [same.priv] at listed
    exact same.kinds _ _ (apart.priv row listed)

end SameMessages

private theorem Mailed.apart_iff {before after : Store}
    (mailed : before.Mailed after) : after.Apart ↔ before.Apart := by
  rw [mailed]
  constructor
  · intro apart
    exact ⟨apart.pub, apart.priv⟩
  · intro apart
    exact ⟨apart.pub, apart.priv⟩

theorem Mailed.kindOf {before after : Store} (mailed : before.Mailed after)
    (groupId : Uuid) : after.kindOf groupId = before.kindOf groupId := by
  rw [mailed]
  rfl

end Store

/-- Every stored message is where its kind belongs, and no plaintext was
broadcast to a private group. -/
structure Chat.Apart (chat : Chat) : Prop where
  stored : chat.server.store.Apart
  published : ∀ message ∈ chat.published,
    chat.server.store.kindOf message.groupId = some .pub

section SameMessages

open Effect

variable {start : Store} {Error : Type}

private theorem keeps_sameMessages_update {change : Store → Store}
    (same : ∀ store : Store, store.SameMessages (change store)) :
    (update change : Effect Store Error Unit).Keeps start.SameMessages :=
  fun store before => before.trans (same store)

private theorem keeps_sameMessages_addMember (groupId userId : Uuid)
    (role : String) :
    (Store.addMember groupId userId role).Keeps start.SameMessages := by
  refine (readOnly_check _ _).keeps.bind fun _ => ?_
  apply keeps_sameMessages_update
  intro store
  split
  · exact .refl store
  · exact .of_groups rfl rfl rfl

private theorem keeps_sameMessages_enqueueInbox (device : Uuid)
    (kind : InboxKind)
    (group : Uuid) (payload : Bytes) :
    (Store.enqueueInbox device kind group payload).Keeps
      start.SameMessages := by
  refine (readOnly_check _ _).keeps.bind fun _ => ?_
  apply keeps_sameMessages_update
  intro store
  exact .of_groups rfl rfl rfl

private theorem keeps_sameMessages_guard (decision : GuardrailDecision)
    (actor : Uuid) (action : ActionClass) (target : String) :
    (GroupSvc.guard decision actor action target).Keeps
      start.SameMessages := by
  apply GroupSvc.keeps_guard
  intro store _ _ _ _ _ same
  exact same.trans (.of_groups rfl rfl rfl)

private theorem keeps_sameMessages_createGroup {change : Store → GroupRow} :
    (update fun store : Store =>
      { store with groups := store.groups ++ [change store] } :
        Effect Store Error Unit).Keeps start.SameMessages := by
  apply keeps_sameMessages_update
  intro store
  exact ⟨fun _ _ known => Store.kindOf_append known _, rfl, rfl⟩

private theorem keeps_sameMessages_createPublicGroup
    (decision : GuardrailDecision)
    (fresh : Uuid) (token : Option Claims)
    (req : GroupSvc.CreatePublicGroupRequest) :
    (GroupSvc.createPublicGroup decision fresh token req).Keeps
      (Server.OnStore start.SameMessages) := by
  refine (readOnly_authenticate token).keeps.bind fun claims => ?_
  refine (readOnly_check _ _).keeps.bind fun _ => ?_
  refine (Server.keeps_onStore
    (Authz.readOnly_require _ _).keeps).bind fun _ => ?_
  refine (Server.keeps_onStore
    (keeps_sameMessages_guard _ _ _ _)).bind fun _ => ?_
  have creates : ∀ name description channelKind categoryId,
      (Store.createPublicGroup fresh name description channelKind
        categoryId).Keeps start.SameMessages := by
    intro name description channelKind categoryId
    refine (readOnly_check _ _).keeps.bind fun _ => ?_
    exact keeps_sameMessages_createGroup.bind fun _ =>
      (readOnly_pure _).keeps
  refine (Server.keeps_onStore
    ((creates _ _ _ _).mapError _)).bind fun groupId => ?_
  refine (Server.keeps_onStore
    ((keeps_sameMessages_addMember _ _ _).mapError _)).bind fun _ => ?_
  exact (Server.keeps_subscribe _ _).bind fun _ => (readOnly_pure _).keeps

private theorem keeps_sameMessages_createPrivateGroup (bus : Bus)
    (token : Option Claims) (req : GroupSvc.CreatePrivateGroupRequest) :
    (GroupSvc.createPrivateGroup bus token req).Keeps
      (Server.OnStore start.SameMessages) := by
  apply GroupSvc.keeps_createPrivateGroup bus token req
    _ keeps_sameMessages_enqueueInbox
  intro claims groupId _
  apply GroupSvc.keeps_adoptGroup _ _ _ _ _
    (keeps_sameMessages_addMember groupId)
  refine (readOnly_check _ _).keeps.bind fun _ => ?_
  exact keeps_sameMessages_createGroup

end SameMessages

namespace MessagingSvc

open Effect

variable {store : Store} {draw : RowDraw} {fresh userId groupId : Uuid}
  {m : SendPublicMessage}

private theorem acceptPublicMessage_of_member
    (parsed : m.groupId.bind IdText.parse = some groupId)
    (filled : trim m.content ≠ "")
    (member : store.isMember groupId userId = true) :
    (acceptPublicMessage draw fresh userId m store).2 =
      (Store.keepPublicMessage (sentRow draw fresh userId groupId m)
        store).2 := by
  have written : (trim m.content != "") = true := by simpa using filled
  simp only [acceptPublicMessage]
  rw [bind_of_ok (requireGroupId_of_parsed parsed), check_bind,
    if_pos written, bind_of_ok (requireParticipant_of_member member),
    bind_pure_state]
  exact Store.insertPublicMessage_store _ _ _ _ _ _

/-- The messages stay apart, groups keep their kinds, and what is returned
belongs to a public group. -/
structure StaysApart (before : Store) (returned : Option Uuid)
    (after : Store) : Prop where
  apart : after.Apart
  kinds : ∀ groupId kind, before.kindOf groupId = some kind →
    after.kindOf groupId = some kind
  returned : ∀ groupId ∈ returned, after.kindOf groupId = some .pub

theorem StaysApart.of_same {before after : Store} (apart : before.Apart)
    (same : before.SameMessages after) : StaysApart before none after where
  apart := same.apart apart
  kinds := same.kinds
  returned := by
    rintro groupId ⟨⟩

private theorem keepPublicMessage_apart {row : PublicMessageRow}
    (apart : store.Apart)
    (suits : Store.storesPublicMessage row store = true →
      store.kindOf row.groupId = some .pub) :
    (Store.keepPublicMessage row).Post store fun result after =>
      StaysApart store (result.toOption.map fun _ => row.groupId) after := by
  simp only [Effect.Post]
  cases found : store.findPublicMessage row.groupId row.clientMessageId with
  | some stored =>
      rw [Store.keepPublicMessage_of_stored found]
      have listed := apart.pub stored (List.mem_of_find?_eq_some found)
      have same : stored.groupId = row.groupId := by
        have matching := List.find?_some found
        simp only [Bool.and_eq_true, beq_iff_eq] at matching
        exact matching.1
      refine ⟨apart, fun _ _ known => known, ?_⟩
      rintro groupId ⟨⟩
      rw [← same]
      exact listed
  | none =>
      cases accepted : Store.storesPublicMessage row store with
      | true =>
          rw [Store.keepPublicMessage_of_accepted found accepted]
          have known := suits accepted
          refine ⟨⟨?_, apart.priv⟩, fun _ _ known => known, ?_⟩
          · intro other listed
            rcases List.mem_append.mp listed with before | added
            · exact apart.pub other before
            · rw [List.mem_singleton.mp added]
              exact known
          · rintro groupId ⟨⟩
            exact known
      | false =>
          obtain ⟨error, refused⟩ :=
            Store.keepPublicMessage_of_refused found accepted
          rw [refused]
          exact .of_same apart (.refl store)

private theorem insertPublicMessage_apart {senderId : Uuid} {content : String}
    {clientMessageId : Uuid} (apart : store.Apart)
    (suits : Store.storesPublicMessage (Store.sentMessage draw groupId
        senderId content clientMessageId) store = true →
      store.kindOf groupId = some .pub) :
    (Store.insertPublicMessage draw groupId senderId content
      clientMessageId).Post store fun result after =>
        StaysApart store (result.toOption.map (·.row.groupId)) after := by
  apply post_bind (keepPublicMessage_apart apart suits)
  · intro error after stays
    exact stays
  · intro stored after stays
    apply (Store.readOnly_senderName senderId).post_bind
    · intro error _
      exact ⟨stays.apart, stays.kinds, by rintro groupId ⟨⟩⟩
    · intro name _
      exact stays

/-- What is asked of a public message: one that goes into the table as it is,
because its sender is a member already, goes to a public group. -/
def SuitsPublic (draw : RowDraw) (fresh userId : Uuid)
    (m : SendPublicMessage) (store : Store) : Prop :=
  ∀ groupId, m.groupId.bind IdText.parse = some groupId →
    trim m.content ≠ "" → store.isMember groupId userId = true →
    Store.storesPublicMessage (sentRow draw fresh userId groupId m) store =
      true →
    store.kindOf groupId = some .pub

private theorem acceptPublicMessage_apart (apart : store.Apart)
    (suits : SuitsPublic draw fresh userId m store) :
    (acceptPublicMessage draw fresh userId m).Post store fun result after =>
      StaysApart store (result.toOption.map (·.groupId)) after := by
  have unchanged : StaysApart store none store := .of_same apart (.refl store)
  apply (readOnly_requireGroupId _).post_bind (fun _ _ => unchanged)
  intro groupId accepted
  have parsed := requireGroupId_ok accepted
  apply (readOnly_check _ _).post_bind (fun _ _ => unchanged)
  intro _ filled
  have written : trim m.content ≠ "" := by simpa using check_ok filled
  -- The message is inserted where the participation has left the store.
  have inserts : ∀ middle : Store, store.SameMessages middle →
      (Store.storesPublicMessage (sentRow draw fresh userId groupId m)
        middle = true → middle.kindOf groupId = some .pub) →
      Effect.Post (do
        let message ← Store.insertPublicMessage draw groupId userId
          (trim m.content) ((m.clientMessageId.bind IdText.parse).getD fresh)
        return message.busMessage) middle fun result after =>
          StaysApart store (result.toOption.map (·.groupId)) after := by
    intro middle same suitsMiddle
    have inserted := insertPublicMessage_apart (same.apart apart) suitsMiddle
    apply post_bind inserted
    · intro error after stays
      exact ⟨stays.apart,
        fun group kind known => stays.kinds _ _ (same.kinds group kind known),
        stays.returned⟩
    · intro message after stays
      exact ⟨stays.apart,
        fun group kind known => stays.kinds _ _ (same.kinds group kind known),
        stays.returned⟩
  simp only [Effect.Post]
  rcases requireParticipant_cases groupId userId store with
    ⟨error, refused⟩ | ⟨member, passed⟩ | ⟨_, known, _, _, entered⟩
  · rw [bind_of_error refused]
    exact unchanged
  · rw [bind_of_ok passed]
    exact inserts store (.refl store) (suits groupId parsed written member)
  · rw [bind_of_ok entered]
    exact inserts (joined store groupId userId) (.of_groups rfl rfl rfl)
      (fun _ => known)

/-- An accepted public message of a member shows whether its group is
public. -/
private theorem suitsPublic_of_apart (apart : store.Apart)
    (after : (acceptPublicMessage draw fresh userId m store).2.Apart) :
    SuitsPublic draw fresh userId m store := by
  intro groupId parsed filled member accepted
  rw [acceptPublicMessage_of_member parsed filled member] at after
  cases found : store.findPublicMessage groupId
      (sentRow draw fresh userId groupId m).clientMessageId with
  | some stored =>
      have listed := apart.pub stored (List.mem_of_find?_eq_some found)
      have matching := List.find?_some found
      simp only [Bool.and_eq_true, beq_iff_eq] at matching
      rw [← matching.1]
      exact listed
  | none =>
      have new : store.findPublicMessage
          (sentRow draw fresh userId groupId m).groupId
          (sentRow draw fresh userId groupId m).clientMessageId =
            none := found
      rw [Store.keepPublicMessage_of_accepted new accepted] at after
      exact after.pub (sentRow draw fresh userId groupId m) (by simp)

section PrivateMessages

variable {claims : Claims} {m : SendPrivateMessage}

def sentPrivateRow (draw : RowDraw) (fresh : Uuid) (claims : Claims)
    (groupId : Uuid) (m : SendPrivateMessage) : PrivateMessageRow where
  id := draw.id
  groupId
  senderId := claims.sub
  senderDeviceId := claims.deviceId
  ciphertext := m.mlsCiphertext
  epoch := m.epoch
  clientMessageId := (m.clientMessageId.bind IdText.parse).getD fresh
  seq := draw.seq
  createdAt := draw.now

def acceptedSend (fresh : Uuid) (claims : Claims) (groupId : Uuid)
    (m : SendPrivateMessage) : PrivateSend where
  claims
  groupId
  ciphertext := m.mlsCiphertext
  epoch := m.epoch
  clientMessageId := (m.clientMessageId.bind IdText.parse).getD fresh

private theorem acceptPrivateMessage_of_member (fresh : Uuid)
    (parsed : m.groupId.bind IdText.parse = some groupId)
    (filled : m.mlsCiphertext ≠ [])
    (member : store.isMember groupId claims.sub = true) :
    acceptPrivateMessage fresh claims m store =
      (.ok (acceptedSend fresh claims groupId m), store) := by
  have written : (!m.mlsCiphertext.isEmpty) = true := by
    simpa using filled
  simp only [acceptPrivateMessage]
  rw [bind_of_ok (GroupSvc.requireGroupId_of_parsed parsed), check_bind,
    if_pos written, check_bind, if_pos member]
  rfl

theorem acceptPrivateMessage_ok {send : PrivateSend}
    (accepted : (acceptPrivateMessage fresh claims m store).1 = .ok send) :
    ∃ groupId, m.groupId.bind IdText.parse = some groupId ∧
      m.mlsCiphertext ≠ [] ∧ store.isMember groupId claims.sub = true ∧
      send = acceptedSend fresh claims groupId m := by
  obtain ⟨groupId, after, named, checked⟩ := bind_ok accepted
  have unchanged : after = store :=
    (congrArg Prod.snd named).symm.trans
      (GroupSvc.readOnly_requireGroupId _ store)
  have parsed := GroupSvc.requireGroupId_ok (congrArg Prod.fst named)
  rw [unchanged, check_bind] at checked
  split at checked
  · rename_i filled
    rw [check_bind] at checked
    split at checked
    · rename_i member
      exact ⟨groupId, parsed, by simpa using filled, member,
        (Except.ok.inj checked).symm⟩
    · cases checked
  · cases checked

/-- What is asked of a private message: one that goes into the table goes to
a private group. -/
def SuitsPrivate (draw : RowDraw) (fresh : Uuid) (claims : Claims)
    (m : SendPrivateMessage) (store : Store) : Prop :=
  ∀ groupId, m.groupId.bind IdText.parse = some groupId →
    m.mlsCiphertext ≠ [] → store.isMember groupId claims.sub = true →
    Store.storesPrivateMessage (sentPrivateRow draw fresh claims groupId m)
      store = true →
    store.kindOf groupId = some .priv

private theorem storeSent_apart (apart : store.Apart)
    (suits : Store.storesPrivateMessage
        (sentPrivateRow draw fresh claims groupId m) store = true →
      store.kindOf groupId = some .priv) :
    StaysApart store none
      (storeSent draw (acceptedSend fresh claims groupId m) store).2 := by
  have unchanged : StaysApart store none store := .of_same apart (.refl store)
  simp only [storeSent, acceptedSend]
  cases found : store.findPrivateMessage groupId
      ((m.clientMessageId.bind IdText.parse).getD fresh) with
  | some stored =>
      have viewed : (read fun store : Store =>
          store.findPrivateMessage groupId
            ((m.clientMessageId.bind IdText.parse).getD fresh) :
              Effect Store ServerError _) store = (.ok (some stored), store) :=
        read_of_eq found
      simp only [Store.storePrivateMessage]
      rw [bind_of_ok viewed]
      exact unchanged
  | none =>
      rw [Store.storePrivateMessage_of_new found]
      cases accepted : Store.storesPrivateMessage
          (sentPrivateRow draw fresh claims groupId m) store with
      | false =>
          obtain ⟨error, refused⟩ :=
            Store.insertPrivateMessage_of_refused accepted
          rw [sentPrivateRow] at refused
          rw [refused]
          exact unchanged
      | true =>
          have inserted := Store.insertPrivateMessage_of_accepted accepted
          have known := suits accepted
          rw [sentPrivateRow] at inserted
          rw [inserted]
          refine ⟨⟨apart.pub, ?_⟩, fun _ _ known => known, by rintro _ ⟨⟩⟩
          intro other listed
          rcases List.mem_append.mp listed with before | added
          · exact apart.priv other before
          · rw [List.mem_singleton.mp added]
            exact known

private theorem handlePrivateMessage_mailed (bus : Bus) (codec : InboxCodec)
    (singleInstance : Bool) (draw : RowDraw) {server : Server}
    {send : PrivateSend}
    (accepted : acceptPrivateMessage fresh claims m server.store =
      (.ok send, server.store)) :
    (storeSent draw send server.store).2.Mailed
      (handlePrivateMessage bus codec singleInstance draw fresh claims m
        server).2.store := by
  have ran : Server.onStore (acceptPrivateMessage fresh claims m) server =
      (.ok send, server) := by
    simp only [Server.onStore, zoom, accepted]
  have stored : (Server.onStore (orStatus (storeSent draw send))).Post server
      fun _ after => Server.OnStore
        (storeSent draw send server.store).2.Mailed after :=
    .refl _
  have mailed : (handlePrivateMessage bus codec singleInstance draw fresh
      claims m).Post server fun _ after =>
        Server.OnStore (storeSent draw send server.store).2.Mailed after := by
    apply post_bind_of_ok ran
    apply post_bind stored (fun _ _ holds => holds)
    intro row after holds
    refine (Server.keeps_publish bus _).post_bind holds
      (fun _ _ holds => holds) ?_
    intro _ published holds
    exact keeps_mailed_mailOffline codec singleInstance send row published
      holds
  exact mailed

private theorem handlePrivateMessage_refused {bus : Bus} {codec : InboxCodec}
    {singleInstance : Bool} {server : Server} {status : Status}
    (refused : (acceptPrivateMessage fresh claims m server.store).1 =
      .error status) :
    (handlePrivateMessage bus codec singleInstance draw fresh claims m
      server).2 = server := by
  have unchanged :=
    readOnly_acceptPrivateMessage fresh claims m server.store
  have ran : Server.onStore (acceptPrivateMessage fresh claims m) server =
      (.error status, server) := by
    simp only [Server.onStore, zoom, refused, unchanged]
  simp only [handlePrivateMessage]
  rw [bind_of_error ran]

/-- A stored private message of a member shows whether its group is
private. -/
private theorem suitsPrivate_of_apart (apart : store.Apart)
    (after : ∀ groupId, acceptPrivateMessage fresh claims m store =
        (.ok (acceptedSend fresh claims groupId m), store) →
      (storeSent draw (acceptedSend fresh claims groupId m)
        store).2.Apart) :
    SuitsPrivate draw fresh claims m store := by
  intro groupId parsed filled member accepted
  have apartAfter := after groupId
    (acceptPrivateMessage_of_member fresh parsed filled member)
  cases found : store.findPrivateMessage groupId
      ((m.clientMessageId.bind IdText.parse).getD fresh) with
  | some stored =>
      have listed := apart.priv stored (List.mem_of_find?_eq_some found)
      have matching := List.find?_some found
      simp only [Bool.and_eq_true, beq_iff_eq] at matching
      rw [← matching.1]
      exact listed
  | none =>
      have inserted := Store.insertPrivateMessage_of_accepted accepted
      simp only [storeSent, acceptedSend] at apartAfter
      rw [Store.storePrivateMessage_of_new found] at apartAfter
      rw [sentPrivateRow] at inserted
      rw [inserted] at apartAfter
      exact apartAfter.priv (sentPrivateRow draw fresh claims groupId m)
        (by simp [sentPrivateRow])

end PrivateMessages

end MessagingSvc

namespace ChatCall

open MessagingSvc

/-- A message that its sender's membership lets through goes to a group of
its kind. -/
def SuitsKind (chat : Chat) : ChatCall → Prop
  | .publicMessage _ draw fresh userId m =>
      SuitsPublic draw fresh userId m chat.server.store
  | .privateMessage _ _ _ draw fresh claims m =>
      SuitsPrivate draw fresh claims m chat.server.store
  | _ => True

variable {chat : Chat}

private theorem apart_of_same (apart : chat.Apart) {server : Server}
    (same : chat.server.store.SameMessages server.store) :
    ({ server, published := chat.published } : Chat).Apart where
  stored := same.apart apart.stored
  published := fun message listed =>
    same.kinds _ _ (apart.published message listed)

private theorem apart_unpublished {call : ChatCall}
    (silent : call.broadcast chat.server.store = [])
    (apart : ({ server := call.after chat.server
                published := chat.published } : Chat).Apart) :
    (step chat call).Apart := by
  simp only [step]
  rw [silent, List.append_nil]
  exact apart

private theorem publicMessage_apart_iff (apart : chat.Apart) (bus : Bus)
    (draw : RowDraw) (fresh userId : Uuid) (m : SendPublicMessage) :
    (step chat (.publicMessage bus draw fresh userId m)).Apart ↔
      SuitsPublic draw fresh userId m chat.server.store := by
  have stored := handlePublicMessage_store bus draw fresh userId m chat.server
  constructor
  · intro after
    apply suitsPublic_of_apart apart.stored
    rw [← stored]
    exact after.stored
  · intro suits
    have stays := acceptPublicMessage_apart apart.stored suits
    simp only [Effect.Post] at stays
    rw [← stored] at stays
    refine ⟨stays.apart, ?_⟩
    intro message listed
    rcases List.mem_append.mp listed with before | sent
    · exact stays.kinds _ _ (apart.published message before)
    · apply stays.returned
      simp only [broadcast, Option.mem_toList] at sent
      rw [Option.mem_def.mp sent]
      rfl

private theorem privateMessage_apart_iff (apart : chat.Apart) (bus : Bus)
    (codec : InboxCodec) (singleInstance : Bool) (draw : RowDraw)
    (fresh : Uuid) (claims : Claims) (m : SendPrivateMessage) :
    (step chat (.privateMessage bus codec singleInstance draw fresh claims
        m)).Apart ↔
      SuitsPrivate draw fresh claims m chat.server.store := by
  constructor
  · intro after
    apply suitsPrivate_of_apart apart.stored
    intro groupId accepted
    have mailed := handlePrivateMessage_mailed bus codec singleInstance draw
      accepted
    exact mailed.apart_iff.mp after.stored
  · intro suits
    apply apart_unpublished rfl
    cases outcome : (acceptPrivateMessage fresh claims m
        chat.server.store).1 with
    | error status =>
        simp only [after, handlePrivateMessage_refused outcome]
        exact apart
    | ok send =>
        obtain ⟨groupId, parsed, filled, member, rfl⟩ :=
          acceptPrivateMessage_ok outcome
        have mailed := handlePrivateMessage_mailed bus codec singleInstance
          draw (acceptPrivateMessage_of_member fresh parsed filled member)
        have stays := storeSent_apart apart.stored
          (suits groupId parsed filled member)
        refine ⟨mailed.apart_iff.mpr stays.apart, ?_⟩
        intro message listed
        rw [after, mailed.kindOf]
        exact stays.kinds _ _ (apart.published message listed)

private theorem apart_iff_suitsKind (chat : Chat) (call : ChatCall)
    (apart : chat.Apart) : (step chat call).Apart ↔ SuitsKind chat call := by
  cases call with
  | createPublicGroup decision fresh token req =>
      have same := keeps_sameMessages_createPublicGroup decision fresh token
        req chat.server (.refl chat.server.store)
      simp only [SuitsKind, iff_true]
      exact apart_unpublished rfl (apart_of_same apart same)
  | createPrivateGroup bus token req =>
      have same := keeps_sameMessages_createPrivateGroup bus token req
        chat.server (.refl chat.server.store)
      simp only [SuitsKind, iff_true]
      exact apart_unpublished rfl (apart_of_same apart same)
  | publicMessage bus draw fresh userId m =>
      exact publicMessage_apart_iff apart bus draw fresh userId m
  | privateMessage bus codec singleInstance draw fresh claims m =>
      exact privateMessage_apart_iff apart bus codec singleInstance draw fresh
        claims m

/-- Plaintext and ciphertext stay apart in exactly the runs in which every
message that a membership lets through suits the kind of its group. -/
theorem apart_iff_all_suitKind (chat : Chat) (apart : chat.Apart)
    (calls : List ChatCall) :
    EventRun.Always step Chat.Apart chat calls ↔
      EventRun.Each step SuitsKind chat calls :=
  EventRun.always_iff_each apart_iff_suitsKind apart calls

/-- A channel and a direct message, with both users in both. -/
def talkStore : Store where
  users := [⟨1, "ada", "Ada", "", true, false, none, ""⟩,
    ⟨2, "bob", "Bob", "", false, false, none, ""⟩]
  devices := [⟨10, 1, "desk", none⟩, ⟨20, 2, "phone", none⟩]
  groups := [⟨7, "general", "", .pub, .text, "", 0⟩,
    ⟨8, "Direct message", "", .priv, .text, "", 0⟩]
  groupMembers := [⟨7, 1, "member"⟩, ⟨8, 1, "owner"⟩, ⟨8, 2, "member"⟩]

def talk : Chat := { server := { store := talkStore } }

private theorem apart_talk : talk.Apart := by
  refine ⟨⟨?_, ?_⟩, ?_⟩ <;> rintro row ⟨⟩

def properTalk : List ChatCall := [
  .publicMessage (fun _ => .ok ()) ⟨900, 1, 1500⟩ 70 2
    ⟨some (.uuid 7), "hello", none⟩,
  .privateMessage (fun _ => .ok ()) InboxCodec.json true ⟨901, 1, 1600⟩ 71
    ⟨2, 20⟩ ⟨some (.uuid 8), [1, 2], 0, none⟩]

theorem properTalk_apart : EventRun.Always step Chat.Apart talk properTalk := by
  apply (apart_iff_all_suitKind talk apart_talk properTalk).mpr
  refine ⟨?_, ?_, trivial⟩
  · intro groupId parsed _ _ _
    cases parsed
    decide
  · intro groupId parsed _ _ _
    cases parsed
    decide

theorem plaintext_in_private_group :
    ¬ EventRun.Always step Chat.Apart talk [
      .publicMessage (fun _ => .ok ()) ⟨900, 1, 1500⟩ 70 2
        ⟨some (.uuid 8), "our secret", none⟩] := by
  intro always
  have stored := always.last.stored.pub
    ⟨900, 8, 2, "our secret", 70, 1, 1500⟩ (by decide)
  exact absurd stored (by decide)

end ChatCall

end Accord
