import Accord.Server.Groups.Service
import Accord.Server.Messaging.Mailbox

/-! `MessagingService` call by call.  Whoever sends to a public channel, reads
it or speaks in it joins it first; a private group takes its members as they
are. -/

namespace Accord

structure SendPublicMessage where
  groupId : Option IdText
  content : String
  clientMessageId : Option IdText

structure FetchHistoryRequest where
  groupId : Option IdText
  beforeSequence : UInt64
  limit : UInt32

structure VoiceSignal where
  groupId : Option IdText
  targetDevice : Option IdText
  data : Bytes

structure VoiceStateUpdate where
  groupId : Option IdText
  joined : Bool
  muted : Bool
  cameraOn : Bool
  screenOn : Bool

structure VoiceState where
  userId : Uuid
  username : String
  displayName : String
  muted : Bool
  cameraOn : Bool
  screenOn : Bool
  deriving DecidableEq

/-- The message as it is published, and as a history returns it. -/
def Store.PublicMessage.busMessage (message : Store.PublicMessage) :
    PublicBusMessage where
  messageId := message.row.id
  groupId := message.row.groupId
  senderId := message.row.senderId
  senderDisplayName := message.senderDisplayName
  content := message.row.content
  timestampSecs := message.row.createdAt / 1000
  timestampNanos := message.row.createdAt % 1000 * 1000000
  sequenceNumber := UInt64.ofNat message.row.seq

namespace Store

def kindOf (store : Store) (groupId : Uuid) : Option GroupKind :=
  (store.groups.find? (·.id == groupId)).map (·.kind)

def userProfile (store : Store) (userId : Uuid) : Option (String × String) :=
  (store.users.find? (·.id == userId)).map fun user =>
    (user.username, user.displayName)

theorem kindOf_append {store : Store} {groupId : Uuid} {kind : GroupKind}
    (known : store.kindOf groupId = some kind) (row : GroupRow) :
    ({ store with groups := store.groups ++ [row] } : Store).kindOf groupId =
      some kind := by
  simp only [kindOf, Option.map_eq_some_iff] at known ⊢
  obtain ⟨group, found, same⟩ := known
  refine ⟨group, ?_, same⟩
  rw [List.find?_append, found]
  rfl

theorem kindOf_append_of_ne {store : Store} {groupId : Uuid}
    {row : GroupRow} (different : row.id ≠ groupId) :
    ({ store with groups := store.groups ++ [row] } : Store).kindOf groupId =
      store.kindOf groupId := by
  simp [kindOf, List.find?_append, different]

end Store

namespace MessagingSvc

open Server

def requireGroupId (groupId : Option IdText) :
    Effect Store ServerError Uuid := do
  let text ← Effect.ofOption groupId
    (.invalidArgument "group_id is required")
  Effect.ofOption text.parse (.invalidArgument "group_id is not a valid UUID")

/-- The open-join rule for somebody who is not a member yet. -/
def joinOnFirstUse (groupId userId : Uuid) :
    Effect Store ServerError Bool := do
  let group ← Store.getGroup groupId
  if group.kind = .pub then
    let keptOut ← Effect.read fun store =>
      store.isUserGuest userId || store.isBanned userId
    if keptOut then
      return false
    else
      Store.addMember groupId userId "member"
      return true
  else
    return false

def ensureParticipant (groupId userId : Uuid) :
    Effect Store ServerError Bool := do
  let member ← Effect.read (·.isMember groupId userId)
  if member then
    return true
  else
    joinOnFirstUse groupId userId

def requireParticipant (groupId userId : Uuid) :
    Effect Store ServerError Unit := do
  let participates ← ensureParticipant groupId userId
  Effect.check (fun _ => participates) .permissionDenied

/-- `handle_public_message`, up to the message it publishes. -/
def acceptPublicMessage (draw : RowDraw) (fresh userId : Uuid)
    (m : SendPublicMessage) : Effect Store ServerError PublicBusMessage := do
  let groupId ← requireGroupId m.groupId
  Effect.check (fun _ => trim m.content != "")
    (.invalidArgument "message content is empty")
  requireParticipant groupId userId
  let message ← Store.insertPublicMessage draw groupId userId
    (trim m.content) ((m.clientMessageId.bind IdText.parse).getD fresh)
  return message.busMessage

def handlePublicMessage (bus : Bus) (draw : RowDraw) (fresh userId : Uuid)
    (m : SendPublicMessage) : Effect Server Status Unit := do
  let message ← onStore (orStatus (acceptPublicMessage draw fresh userId m))
  publish bus (.pub message)

/-- A device that is not connected finds the message in its inbox, as far as
that works. -/
def queueOffline (codec : InboxCodec) (row : PrivateMessageRow)
    (sender device : Uuid) : Effect Server Status Unit := do
  let connected ← Effect.read (·.registry.isConnected device)
  if device = sender || connected then
    pure ()
  else
    (onStore (orStatus (Store.enqueueInbox device .priv row.groupId
      (codec.encode row.inboxPayload)))).attempt

/-- Presence is known for one instance only, and so is who needs the queue. -/
def mailOffline (codec : InboxCodec) (singleInstance : Bool)
    (send : PrivateSend) (row : PrivateMessageRow) :
    Effect Server Status Unit :=
  if singleInstance then do
    let devices ← onStore (Effect.read (·.deviceIdsForGroup send.groupId))
    Effect.forEach (queueOffline codec row send.claims.deviceId) devices
  else
    pure ()

def storeSent (draw : RowDraw) (send : PrivateSend) :
    Effect Store ServerError PrivateMessageRow :=
  Store.storePrivateMessage draw send.groupId send.claims.sub
    send.claims.deviceId send.ciphertext send.epoch send.clientMessageId

def handlePrivateMessage (bus : Bus) (codec : InboxCodec)
    (singleInstance : Bool) (draw : RowDraw) (fresh : Uuid) (claims : Claims)
    (m : SendPrivateMessage) : Effect Server Status Unit := do
  let send ← onStore (acceptPrivateMessage fresh claims m)
  let row ← onStore (orStatus (storeSent draw send))
  publish bus (.priv row.busMessage claims.deviceId)
  mailOffline codec singleInstance send row

def acceptVoiceSignal (userId : Uuid) (signal : VoiceSignal) :
    Effect Store ServerError Uuid := do
  let groupId ← requireGroupId signal.groupId
  requireParticipant groupId userId
  Effect.ofOption (signal.targetDevice.bind IdText.parse)
    (.invalidArgument "voice signal needs a target_device")

/-- What is announced to the channel.  The roster of the hub is not part of
this. -/
def handleVoiceState (claims : Claims) (update : VoiceStateUpdate) :
    Effect Server Status VoiceState := do
  let groupId ← onStore (orStatus (requireGroupId update.groupId))
  onStore (orStatus (requireParticipant groupId claims.sub))
  subscribe claims.deviceId groupId
  let profile ← onStore (Effect.read (·.userProfile claims.sub))
  return {
    userId := claims.sub
    username := (profile.getD ("", "")).1
    displayName := (profile.getD ("", "")).2
    muted := update.muted, cameraOn := update.cameraOn
    screenOn := update.screenOn }

def defaultHistoryLimit : ℕ := 50

def maxHistoryLimit : ℕ := 200

def clampLimit (requested : UInt32) : ℕ :=
  if requested = 0 then
    defaultHistoryLimit
  else
    min requested.toNat maxHistoryLimit

def fetchPublicHistory (token : Option Claims) (req : FetchHistoryRequest) :
    Effect Store Status (List PublicBusMessage) := do
  let claims ← authenticate token
  let groupId ← orStatus (requireGroupId req.groupId)
  orStatus (requireParticipant groupId claims.sub)
  let rows ← Effect.read (·.fetchPublicHistory groupId
    req.beforeSequence.toBitVec.toInt (clampLimit req.limit))
  return rows.map (·.busMessage)

def fetchPrivateHistory (token : Option Claims)
    (req : FetchHistoryRequest) :
    Effect Store Status (List PrivateBusMessage) := do
  let claims ← authenticate token
  let groupId ← orStatus (requireGroupId req.groupId)
  Effect.check (·.isMember groupId claims.sub)
    (ServerError.permissionDenied : Status)
  let rows ← Effect.read (·.fetchPrivateHistory groupId
    req.beforeSequence.toBitVec.toInt (clampLimit req.limit))
  return rows.map (·.busMessage)

section Requests

variable {store : Store} {groupId : Uuid}

theorem requireGroupId_of_parsed {text : Option IdText}
    (parsed : text.bind IdText.parse = some groupId) :
    requireGroupId text store = (.ok groupId, store) := by
  cases text with
  | none => cases parsed
  | some value =>
      cases value with
      | uuid id =>
          cases parsed
          rfl
      | malformed => cases parsed

theorem requireGroupId_ok {text : Option IdText}
    (accepted : (requireGroupId text store).1 = .ok groupId) :
    text.bind IdText.parse = some groupId := by
  cases text with
  | none => cases accepted
  | some value => exact Effect.ofOption_ok accepted

theorem readOnly_requireGroupId (text : Option IdText) :
    (requireGroupId text).ReadOnly :=
  (Effect.readOnly_ofOption _ _).bind fun _ => Effect.readOnly_ofOption _ _

end Requests

theorem readOnly_acceptPrivateMessage (fresh : Uuid) (claims : Claims)
    (m : SendPrivateMessage) :
    (acceptPrivateMessage fresh claims m).ReadOnly := by
  refine (GroupSvc.readOnly_requireGroupId _).bind fun _ => ?_
  refine (Effect.readOnly_check _ _).bind fun _ => ?_
  exact (Effect.readOnly_check _ _).bind fun _ => Effect.readOnly_pure _

def sentRow (draw : RowDraw) (fresh userId groupId : Uuid)
    (m : SendPublicMessage) : PublicMessageRow :=
  Store.sentMessage draw groupId userId (trim m.content)
    ((m.clientMessageId.bind IdText.parse).getD fresh)

theorem handlePublicMessage_store (bus : Bus) (draw : RowDraw)
    (fresh userId : Uuid) (m : SendPublicMessage) (server : Server) :
    (handlePublicMessage bus draw fresh userId m server).2.store =
      (acceptPublicMessage draw fresh userId m server.store).2 := by
  have same : (handlePublicMessage bus draw fresh userId m).Post server
      fun _ after => after.store =
        (acceptPublicMessage draw fresh userId m server.store).2 := by
    have accepts : (onStore (orStatus (acceptPublicMessage draw fresh
        userId m))).Post server fun _ after => after.store =
          (acceptPublicMessage draw fresh userId m server.store).2 := rfl
    exact Effect.post_bind accepts (fun _ _ holds => holds)
      (fun _ _ holds => holds)
  exact same

theorem keeps_mailed_mailOffline {start : Store} (codec : InboxCodec)
    (singleInstance : Bool) (send : PrivateSend) (row : PrivateMessageRow) :
    (mailOffline codec singleInstance send row).Keeps
      (OnStore start.Mailed) := by
  simp only [mailOffline]
  split
  · refine (keeps_onStore (Effect.readOnly_read _).keeps).bind ?_
    intro devices
    apply Effect.keeps_forEach
    intro device
    refine (Effect.readOnly_read _).keeps.bind fun connected => ?_
    split
    · exact (Effect.readOnly_pure _).keeps
    · exact (keeps_onStore
        ((Store.keeps_mailed_enqueueInbox _ _ _ _).mapError _)).attempt
  · exact (Effect.readOnly_pure _).keeps

section Participation

variable {store : Store} {groupId userId : Uuid}

theorem getGroup_of_kind {kind : GroupKind}
    (known : store.kindOf groupId = some kind) :
    ∃ group, Store.getGroup groupId store = (.ok group, store) ∧
      group.kind = kind := by
  simp only [Store.kindOf, Option.map_eq_some_iff] at known
  obtain ⟨group, found, same⟩ := known
  refine ⟨group, ?_, same⟩
  simp only [Store.getGroup, Effect.require, found]

theorem getGroup_of_none (unknown : store.kindOf groupId = none) :
    ∃ error, Store.getGroup groupId store = (.error error, store) := by
  simp only [Store.kindOf, Option.map_eq_none_iff] at unknown
  simp only [Store.getGroup, Effect.require, unknown]
  exact ⟨_, rfl⟩

theorem requireParticipant_of_member
    (member : store.isMember groupId userId = true) :
    requireParticipant groupId userId store = (.ok (), store) := by
  have viewed : (Effect.read fun store : Store =>
      store.isMember groupId userId : Effect Store ServerError Bool) store =
        (.ok true, store) := Effect.read_of_eq member
  have participates :
      ensureParticipant groupId userId store = (.ok true, store) := by
    simp only [ensureParticipant]
    rw [Effect.bind_of_ok viewed]
    rfl
  simp only [requireParticipant]
  rw [Effect.bind_of_ok participates]
  rfl

private theorem requireParticipant_of_outsider
    (outsider : store.isMember groupId userId = false) :
    requireParticipant groupId userId store = (do
      let joined ← joinOnFirstUse groupId userId
      Effect.check (fun _ => joined) .permissionDenied :
        Effect Store ServerError Unit) store := by
  have viewed : (Effect.read fun store : Store =>
      store.isMember groupId userId : Effect Store ServerError Bool) store =
        (.ok false, store) := Effect.read_of_eq outsider
  simp only [requireParticipant, ensureParticipant, bind_assoc]
  rw [Effect.bind_of_ok viewed]
  rfl

theorem joinOnFirstUse_keptOut {kind : GroupKind}
    (known : store.kindOf groupId = some kind)
    (keptOut : kind = .pub →
      (store.isUserGuest userId || store.isBanned userId) = true) :
    joinOnFirstUse groupId userId store = (.ok false, store) := by
  obtain ⟨group, found, same⟩ := getGroup_of_kind known
  simp only [joinOnFirstUse]
  rw [Effect.bind_of_ok found]
  split
  · rename_i isPublic
    have viewed : (Effect.read fun store : Store =>
        store.isUserGuest userId || store.isBanned userId :
          Effect Store ServerError Bool) store = (.ok true, store) :=
      Effect.read_of_eq (keptOut (same.symm.trans isPublic))
    rw [Effect.bind_of_ok viewed]
    rfl
  · rfl

theorem requireParticipant_denied {kind : GroupKind}
    (outsider : store.isMember groupId userId = false)
    (known : store.kindOf groupId = some kind)
    (keptOut : kind = .pub →
      (store.isUserGuest userId || store.isBanned userId) = true) :
    requireParticipant groupId userId store =
      (.error .permissionDenied, store) := by
  rw [requireParticipant_of_outsider outsider,
    Effect.bind_of_ok (joinOnFirstUse_keptOut known keptOut)]
  rfl

def joined (store : Store) (groupId userId : Uuid) : Store :=
  { store with
    groupMembers := store.groupMembers ++ [⟨groupId, userId, "member"⟩] }

theorem joinOnFirstUse_open (known : store.kindOf groupId = some .pub)
    (ordinary : store.isUserGuest userId = false)
    (unbanned : store.isBanned userId = false) :
    joinOnFirstUse groupId userId store = (do
      Store.addMember groupId userId "member"
      return true : Effect Store ServerError Bool) store := by
  obtain ⟨group, found, same⟩ := getGroup_of_kind known
  have viewed : (Effect.read fun store : Store =>
      store.isUserGuest userId || store.isBanned userId :
        Effect Store ServerError Bool) store = (.ok false, store) :=
    Effect.read_of_eq (by rw [ordinary, unbanned]; rfl)
  simp only [joinOnFirstUse]
  rw [Effect.bind_of_ok found, if_pos same, Effect.bind_of_ok viewed]
  rfl

/-- A member, or somebody the open-join rule lets in. -/
def participates (store : Store) (groupId userId : Uuid) : Bool :=
  store.isMember groupId userId ||
    (store.kindOf groupId == some .pub && !store.isUserGuest userId &&
      !store.isBanned userId &&
      store.referencesHold (store.hasGroup groupId && store.hasUser userId))

theorem requireParticipant_of_participates
    (takesPart : participates store groupId userId = true) :
    requireParticipant groupId userId store =
      (.ok (), if store.isMember groupId userId then store
        else joined store groupId userId) := by
  cases member : store.isMember groupId userId with
  | true => exact requireParticipant_of_member member
  | false =>
      simp only [participates, member, Bool.false_or, Bool.and_eq_true,
        Bool.not_eq_true', beq_iff_eq] at takesPart
      obtain ⟨⟨⟨known, ordinary⟩, unbanned⟩, references⟩ := takesPart
      have added := Store.addMember_eq groupId userId "member" store
      rw [if_pos (by simpa using references), member] at added
      have entered := (joinOnFirstUse_open known ordinary unbanned).trans
        (Effect.bind_of_ok added _)
      rw [requireParticipant_of_outsider member, Effect.bind_of_ok entered]
      rfl

theorem requireParticipant_refused
    (outside : participates store groupId userId = false) :
    ∃ error, requireParticipant groupId userId store =
      (.error error, store) := by
  simp only [participates, Bool.or_eq_false_iff] at outside
  obtain ⟨outsider, closed⟩ := outside
  cases known : store.kindOf groupId with
  | none =>
      obtain ⟨error, missing⟩ := getGroup_of_none known
      have refused :
          joinOnFirstUse groupId userId store = (.error error, store) :=
        Effect.bind_of_error missing _
      refine ⟨error, ?_⟩
      rw [requireParticipant_of_outsider outsider,
        Effect.bind_of_error refused]
  | some kind =>
      by_cases keptOut : kind = .pub →
          (store.isUserGuest userId || store.isBanned userId) = true
      · exact ⟨_, requireParticipant_denied outsider known keptOut⟩
      · simp only [Classical.not_imp, Bool.not_eq_true,
          Bool.or_eq_false_iff] at keptOut
        obtain ⟨rfl, ordinary, unbanned⟩ := keptOut
        -- Only the references of the new row can still be missing.
        have unreferenced : store.referencesHold
            (store.hasGroup groupId && store.hasUser userId) = false := by
          simpa [known, ordinary, unbanned] using closed
        have added := Store.addMember_eq groupId userId "member" store
        rw [unreferenced] at added
        have refused := (joinOnFirstUse_open known ordinary unbanned).trans
          (Effect.bind_of_error added _)
        rw [requireParticipant_of_outsider outsider,
          Effect.bind_of_error refused]
        exact ⟨_, rfl⟩

/-- Whoever takes part is a member already or joins a public channel as
somebody who is neither a guest nor banned. -/
theorem requireParticipant_cases (groupId userId : Uuid) (store : Store) :
    (∃ error, requireParticipant groupId userId store =
      (.error error, store)) ∨
    (store.isMember groupId userId = true ∧
      requireParticipant groupId userId store = (.ok (), store)) ∨
    (store.isMember groupId userId = false ∧
      store.kindOf groupId = some .pub ∧ store.isUserGuest userId = false ∧
      store.isBanned userId = false ∧
      requireParticipant groupId userId store =
        (.ok (), joined store groupId userId)) := by
  cases takesPart : participates store groupId userId with
  | false => exact .inl (requireParticipant_refused takesPart)
  | true =>
      have passed := requireParticipant_of_participates takesPart
      cases member : store.isMember groupId userId with
      | true =>
          rw [member] at passed
          exact .inr (.inl ⟨rfl, passed⟩)
      | false =>
          rw [member] at passed
          simp only [participates, member, Bool.false_or, Bool.and_eq_true,
            Bool.not_eq_true', beq_iff_eq] at takesPart
          obtain ⟨⟨⟨known, ordinary⟩, unbanned⟩, _⟩ := takesPart
          exact .inr (.inr ⟨rfl, known, ordinary, unbanned, passed⟩)

end Participation

end MessagingSvc

end Accord
