import Accord.Library.Tasks
import Accord.Server.Messaging.Service

/-! The voice channels of the hub, lock by lock.  A call changes the roster of
its channel, announces the change to the channel and, after a join, sends the
roster it found to the newcomer; every one of these takes a lock of its own.

No device reconnects here, so what is put to a device's stream is recorded
under the device.  The streams are never full. -/

namespace Accord

structure VoiceParticipant where
  groupId : Uuid
  device : Uuid
  state : VoiceState
  joined : Bool
  deriving DecidableEq

namespace VoiceParticipant

def content (news : VoiceParticipant) : Option VoiceState :=
  if news.joined then some news.state else none

def apply (news : VoiceParticipant) (roster : Mapping Uuid VoiceState) :
    Mapping Uuid VoiceState :=
  if news.joined then roster.insert news.device news.state
  else roster.erase news.device

theorem lookup_apply (news : VoiceParticipant)
    (roster : Mapping Uuid VoiceState) (other : Uuid) :
    AList.lookup other (news.apply roster) =
      if other = news.device then news.content
      else roster.lookup other := by
  unfold apply content
  cases news.joined with
  | true => exact Mapping.lookup_insert_eq _ _ _ _
  | false => exact Mapping.lookup_erase_eq _ _ _

end VoiceParticipant

/-- A device comes into the roster of a channel, or is put a message. -/
inductive VoiceEntry where
  | entered (group device : Uuid)
  | got (device : Uuid) (news : VoiceParticipant)

structure VoiceHub where
  registry : Registry Unit
  voice : Nested Uuid Uuid VoiceState := ∅
  log : List VoiceEntry := []

namespace VoiceHub

variable (hub : VoiceHub)

def voiceJoin (group device : Uuid) (state : VoiceState) : VoiceHub :=
  { hub with
    voice := hub.voice.put group device state
    log :=
      if (hub.voice.get group device).isSome then hub.log
      else hub.log ++ [.entered group device] }

def participants (group : Uuid) : List (Uuid × VoiceState) :=
  (hub.voice.row group).entries.map fun entry => (entry.1, entry.2)

def voiceLeave (group device : Uuid) : VoiceHub :=
  { hub with voice := hub.voice.drop group device }

/-- The channels the device is in, with its last state there. -/
def voiceOf (device : Uuid) : List (Uuid × VoiceState) :=
  hub.voice.keys.filterMap fun group =>
    (hub.voice.get group device).map fun state => (group, state)

def voiceDropDevice (device : Uuid) : VoiceHub :=
  { hub with voice := hub.voice.dropAll hub.voice.keys device }

def publishVoiceParticipant (news : VoiceParticipant) : VoiceHub :=
  { hub with
    log := hub.log ++
      (hub.registry.groupSubs.row news.groupId).keys.map (.got · news) }

def sendToDevice (device : Uuid) (news : VoiceParticipant) : VoiceHub :=
  if hub.registry.isConnected device then
    { hub with log := hub.log ++ [.got device news] }
  else
    hub

/-- To one device, or to the channel of the message. -/
def send (target : Option Uuid) (news : VoiceParticipant) : VoiceHub :=
  match target with
  | some device => hub.sendToDevice device news
  | none => hub.publishVoiceParticipant news

end VoiceHub

def VoiceStateUpdate.voiceState (update : VoiceStateUpdate) (userId : Uuid)
    (profile : Option (String × String)) : VoiceState where
  userId := userId
  username := (profile.getD ("", "")).1
  displayName := (profile.getD ("", "")).2
  muted := update.muted
  cameraOn := update.cameraOn
  screenOn := update.screenOn

inductive VoiceCall where
  | update (claims : Claims) (update : VoiceStateUpdate)
  | disconnect (device : Uuid)

inductive VoiceTask where
  | checking (claims : Claims) (update : VoiceStateUpdate)
  | reading (claims : Claims) (group : Uuid) (update : VoiceStateUpdate)
  | announcing (news : VoiceParticipant) (burst : List VoiceParticipant)
  | sending (target : Option Uuid) (rest : List VoiceParticipant)
  | disconnecting (device : Uuid)
  | dropping (device : Uuid)
  | done

/-- What the store answers to a turn, and which of the messages that are left
is the next one: the rosters are hash maps and come in any order. -/
structure VoiceInput where
  admitted : Bool := true
  profile : Option (Option (String × String)) := some none
  pick : ℕ := 0

namespace VoiceTask

/-- The roster a join found, as messages to the newcomer. -/
def burst (group device : Uuid) (participants : List (Uuid × VoiceState)) :
    List VoiceParticipant :=
  (participants.filter fun entry => entry.1 != device).map fun entry =>
    ⟨group, entry.1, entry.2, true⟩

def farewells (device : Uuid) (left : List (Uuid × VoiceState)) :
    List VoiceParticipant :=
  left.map fun entry => ⟨entry.1, device, entry.2, false⟩

def enter : VoiceCall → VoiceTask
  | .update claims update => checking claims update
  | .disconnect device => disconnecting device

def change (hub : VoiceHub) (claims : Claims) (group : Uuid)
    (update : VoiceStateUpdate) (state : VoiceState) :
    VoiceHub × VoiceTask :=
  if update.joined then
    let joined := hub.voiceJoin group claims.deviceId state
    (joined, announcing ⟨group, claims.deviceId, state, true⟩
      (burst group claims.deviceId (joined.participants group)))
  else
    (hub.voiceLeave group claims.deviceId,
      announcing ⟨group, claims.deviceId, state, false⟩ [])

def advance (hub : VoiceHub) (task : VoiceTask) (input : VoiceInput) :
    VoiceHub × VoiceTask :=
  match task with
  | checking claims update =>
      match update.groupId.bind IdText.parse, input.admitted with
      | some group, true =>
          ({ hub with
              registry := hub.registry.subscribe claims.deviceId group },
            reading claims group update)
      | _, _ => (hub, done)
  | reading claims group update =>
      match input.profile with
      | some profile =>
          change hub claims group update
            (update.voiceState claims.sub profile)
      | none => (hub, done)
  | announcing news burst =>
      (hub.publishVoiceParticipant news, sending (some news.device) burst)
  | sending _ [] => (hub, done)
  | sending target (first :: rest) =>
      match (first :: rest)[input.pick]? with
      | some news =>
          (hub.send target news,
            sending target ((first :: rest).eraseIdx input.pick))
      | none => (hub, sending target (first :: rest))
  | disconnecting device =>
      ({ hub with registry := hub.registry.unregister device },
        dropping device)
  | dropping device =>
      (hub.voiceDropDevice device,
        sending none (farewells device (hub.voiceOf device)))
  | done => (hub, done)

end VoiceTask

abbrev VoicePool := Tasks.Pool VoiceHub VoiceTask

abbrev VoiceEvent := Tasks.Event VoiceCall VoiceInput

def voiceMachine : Tasks.Machine VoiceHub VoiceCall VoiceTask VoiceInput where
  enter := VoiceTask.enter
  advance := VoiceTask.advance

/-- The handler does to the tables what the first two turns of a call do, and
announces the same state. -/
theorem handleVoiceState_admitted {claims : Claims}
    {update : VoiceStateUpdate} {server : Server} {group : Uuid}
    {store : Store} (parsed : update.groupId.bind IdText.parse = some group)
    (admitted : MessagingSvc.requireParticipant group claims.sub
      server.store = (.ok (), store)) :
    MessagingSvc.handleVoiceState claims update server =
      (.ok (update.voiceState claims.sub (store.userProfile claims.sub)),
        { server with
          store
          registry := server.registry.subscribe claims.deviceId group }) := by
  have named : Server.onStore (orStatus
      (MessagingSvc.requireGroupId update.groupId)) server =
        (.ok group, server) :=
    Server.onStore_of_ok
      (orStatus_of_ok (MessagingSvc.requireGroupId_of_parsed parsed))
  simp only [MessagingSvc.handleVoiceState]
  rw [Effect.bind_of_ok named,
    Effect.bind_of_ok (Server.onStore_of_ok (orStatus_of_ok admitted))]
  rfl

end Accord
