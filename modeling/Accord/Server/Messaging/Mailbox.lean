import Accord.Library.EventRun
import Accord.Library.Slots
import Accord.Server.Groups.Moderation
import Accord.Server.Messaging.Drain
import Accord.Server.Store.Messages
import Accord.Types.Json

/-! Private messages and streams, await by await.  A send stores its row,
publishes it and then goes through the devices of the group; a stream reads
the groups of its user, registers and drains the inbox.  The bus is
in-process and every buffer is large enough. -/

namespace Accord

/-- The form of a queued message, which decodes to what was encoded. -/
structure InboxCodec where
  encode : PrivateInboxPayload → Bytes
  decode : Bytes → Option PrivateInboxPayload
  decode_encode : ∀ payload, decode (encode payload) = some payload

/-- The text `serde_json` writes for a payload. -/
def PrivateInboxPayload.json : Format UInt8 PrivateInboxPayload :=
  let ciphertext := Json.field "\x7b\"ciphertext\":[" Json.byteArray
  let senderId := Json.field ",\"sender_id\":\"" Json.uuid
  let epoch := Json.field ",\"epoch\":" (Json.u64 ',' Json.closes_comma)
  let timestampSecs :=
    Json.field "\"timestamp_secs\":" (Json.int ',' Json.closes_comma)
  let timestampNanos :=
    Json.field "\"timestamp_nanos\":" (Json.int ',' Json.closes_comma)
  let sequenceNumber :=
    Json.field "\"sequence_number\":" (Json.u64 '\x7d' Json.closes_brace)
  Format.convert
    (ciphertext.pair (senderId.pair (epoch.pair
      (timestampSecs.pair (timestampNanos.pair sequenceNumber)))))
    (fun payload => (payload.ciphertext, payload.senderId, payload.epoch,
      payload.timestampSecs, payload.timestampNanos, payload.sequenceNumber))
    (fun found => ⟨found.1, found.2.1, found.2.2.1, found.2.2.2.1,
      found.2.2.2.2.1, found.2.2.2.2.2⟩)
    (fun _ => rfl)

def InboxCodec.json : InboxCodec where
  encode := PrivateInboxPayload.json.write
  decode := PrivateInboxPayload.json.decode
  decode_encode := PrivateInboxPayload.json.decode_write

example : InboxCodec.json.encode ⟨[7, 255], 0xa1, 3, 12, 5000000, 41⟩ =
    Json.bytesOf ("\x7b\"ciphertext\":[7,255],\"sender_id\":\"" ++
      "00000000-0000-0000-0000-0000000000a1\",\"epoch\":3," ++
      "\"timestamp_secs\":12,\"timestamp_nanos\":5000000," ++
      "\"sequence_number\":41\x7d").toList := by
  decide +kernel

namespace PrivateMessageRow

def timestampSecs (row : PrivateMessageRow) : Int := row.createdAt / 1000

def timestampNanos (row : PrivateMessageRow) : Int :=
  row.createdAt % 1000 * 1000000

def busMessage (row : PrivateMessageRow) : PrivateBusMessage where
  groupId := row.groupId
  senderId := row.senderId
  ciphertext := row.ciphertext
  epoch := row.epoch
  timestampSecs := row.timestampSecs
  timestampNanos := row.timestampNanos
  sequenceNumber := UInt64.ofNat row.seq

def inboxPayload (row : PrivateMessageRow) : PrivateInboxPayload where
  ciphertext := row.ciphertext
  senderId := row.senderId
  epoch := row.epoch
  timestampSecs := row.timestampSecs
  timestampNanos := row.timestampNanos
  sequenceNumber := UInt64.ofNat row.seq

def notification (row : PrivateMessageRow) : ServerMessage :=
  .privateMessage row.busMessage

end PrivateMessageRow

structure SendPrivateMessage where
  groupId : Option IdText
  mlsCiphertext : Bytes
  epoch : UInt64
  clientMessageId : Option IdText

structure PrivateSend where
  claims : Claims
  groupId : Uuid
  ciphertext : Bytes
  epoch : UInt64
  clientMessageId : Uuid
  deriving DecidableEq

/-- `fresh` stands in for a client id that is missing or malformed. -/
def MessagingSvc.acceptPrivateMessage (fresh : Uuid) (claims : Claims)
    (m : SendPrivateMessage) : Effect Store Status PrivateSend := do
  let groupId ← GroupSvc.requireGroupId m.groupId
  Effect.check (fun _ => !m.mlsCiphertext.isEmpty)
    (ServerError.invalidArgument "empty ciphertext")
  Effect.check (·.isMember groupId claims.sub) ServerError.permissionDenied
  return {
    claims, groupId
    ciphertext := m.mlsCiphertext
    epoch := m.epoch
    clientMessageId := (m.clientMessageId.bind IdText.parse).getD fresh }

/-- `queueing` is a send that found a device offline and is about to queue
the message for it. -/
inductive SendPhase where
  | storing
  | publishing (row : PrivateMessageRow)
  | listing (row : PrivateMessageRow)
  | mailing (row : PrivateMessageRow) (devices : List Uuid)
  | queueing (row : PrivateMessageRow) (device : Uuid) (rest : List Uuid)
  | done (row : PrivateMessageRow)
  | failed
  deriving DecidableEq

namespace SendPhase

def row : SendPhase → Option PrivateMessageRow
  | .storing | .failed => none
  | .publishing row | .listing row | .done row => some row
  | .mailing row _ => some row
  | .queueing row _ _ => some row

def awaits (device : Uuid) : SendPhase → Bool
  | .listing _ => true
  | .mailing _ devices => devices.contains device
  | .queueing _ _ rest => rest.contains device
  | _ => false

end SendPhase

structure SendTask where
  send : PrivateSend
  phase : SendPhase
  deriving DecidableEq

inductive StreamPhase where
  | listed
  | registered
  | reading
  | ended
  deriving DecidableEq

structure MailStream where
  claims : Claims
  groups : List Uuid
  phase : StreamPhase
  deriving DecidableEq

/-- The stream has a channel that somebody reads or will read. -/
def MailStream.live (stream : MailStream) : Bool :=
  match stream.phase with
  | .registered | .reading => true
  | .listed | .ended => false

structure Receipt where
  device : Uuid
  message : ServerMessage
  deriving DecidableEq

/-- A stream's channel is its place in the list of streams. -/
structure Mailroom where
  store : Store
  registry : Registry ℕ := {}
  streams : List MailStream := []
  sends : List SendTask := []
  received : List Receipt := []

inductive MailEvent where
  | lookup (claims : Claims)
  | register (stream : ℕ)
  | drain (stream : ℕ)
  | close (stream : ℕ)
  | submit (fresh : Uuid) (claims : Claims) (message : SendPrivateMessage)
  | storeRow (send : ℕ) (draw : RowDraw)
  | publish (send : ℕ)
  | list (send : ℕ)
  | check (send : ℕ)
  | enqueue (send : ℕ)

namespace Mailroom

/-- What arrives of a list of offers: an ended stream receives nothing. -/
def arrivals (mail : Mailroom) (offers : List (ℕ × ServerMessage)) :
    List Receipt :=
  offers.filterMap fun offer =>
    (mail.streams[offer.1]?.filter MailStream.live).map
      fun stream => ⟨stream.claims.deviceId, offer.2⟩

def inPhase (mail : Mailroom) (index : ℕ) (phase : StreamPhase) :
    Option MailStream :=
  mail.streams[index]?.filter (·.phase == phase)

def setPhase (mail : Mailroom) (index : ℕ) (stream : MailStream)
    (phase : StreamPhase) : List MailStream :=
  mail.streams.set index { stream with phase }

/-- `group_ids_for_user`. -/
def lookup (mail : Mailroom) (claims : Claims) : Mailroom :=
  { mail with streams := mail.streams ++
      [⟨claims, mail.store.groupIdsForUser claims.sub, .listed⟩] }

def register (mail : Mailroom) (index : ℕ) : Mailroom :=
  match mail.inPhase index .listed with
  | some stream =>
      { mail with
        registry := mail.registry.register stream.claims.deviceId
          stream.groups index
        streams := mail.setPhase index stream .registered }
  | none => mail

/-- `drain_inbox` and the sends to the device that follow it at once. -/
def drain (codec : InboxCodec) (mail : Mailroom) (index : ℕ) : Mailroom :=
  match mail.inPhase index .registered with
  | some stream =>
      let device := stream.claims.deviceId
      let drained := mail.store.drainInbox device
      let messages := drained.1.filterMap
        (MessagingSvc.inboxMessage codec.decode)
      { mail with
        store := drained.2
        streams := mail.setPhase index stream .reading
        received := mail.received ++ mail.arrivals
          (messages.flatMap (mail.registry.deliverToDevice device)) }
  | none => mail

def close (mail : Mailroom) (index : ℕ) : Mailroom :=
  match mail.inPhase index .reading with
  | some stream =>
      { mail with
        registry := mail.registry.unregister stream.claims.deviceId
        streams := mail.setPhase index stream .ended }
  | none => mail

def submit (mail : Mailroom) (fresh : Uuid) (claims : Claims)
    (message : SendPrivateMessage) : Mailroom :=
  match (MessagingSvc.acceptPrivateMessage fresh claims message
      mail.store).1 with
  | .ok send => { mail with sends := mail.sends ++ [⟨send, .storing⟩] }
  | .error _ => mail

def advance (mail : Mailroom) (index : ℕ) (send : PrivateSend)
    (phase : SendPhase) : List SendTask :=
  mail.sends.set index ⟨send, phase⟩

def storeSend (draw : RowDraw) (send : PrivateSend) :
    Effect Store ServerError PrivateMessageRow :=
  Store.storePrivateMessage draw send.groupId send.claims.sub
    send.claims.deviceId send.ciphertext send.epoch send.clientMessageId

def storeRow (mail : Mailroom) (index : ℕ) (draw : RowDraw) : Mailroom :=
  match mail.sends[index]? with
  | some ⟨send, .storing⟩ =>
      match storeSend draw send mail.store with
      | (.ok row, store) =>
          { mail with
            store := store
            sends := mail.advance index send (.publishing row) }
      | (.error _, store) =>
          { mail with
            store := store
            sends := mail.advance index send .failed }
  | _ => mail

def publish (mail : Mailroom) (index : ℕ) : Mailroom :=
  match mail.sends[index]? with
  | some ⟨send, .publishing row⟩ =>
      { mail with
        sends := mail.advance index send (.listing row)
        received := mail.received ++ mail.arrivals
          (mail.registry.route (.priv row.busMessage send.claims.deviceId)) }
  | _ => mail

/-- `device_ids_for_group`. -/
def list (mail : Mailroom) (index : ℕ) : Mailroom :=
  match mail.sends[index]? with
  | some ⟨send, .listing row⟩ =>
      { mail with
        sends := mail.advance index send
          (.mailing row (mail.store.deviceIdsForGroup send.groupId)) }
  | _ => mail

/-- The next device of the loop: it is skipped, or found to be offline. -/
def check (mail : Mailroom) (index : ℕ) : Mailroom :=
  match mail.sends[index]? with
  | some ⟨send, .mailing row []⟩ =>
      { mail with sends := mail.advance index send (.done row) }
  | some ⟨send, .mailing row (device :: rest)⟩ =>
      if device = send.claims.deviceId ∨
          mail.registry.isConnected device = true then
        { mail with sends := mail.advance index send (.mailing row rest) }
      else
        { mail with
          sends := mail.advance index send (.queueing row device rest) }
  | _ => mail

/-- A message that cannot be queued is given up with a warning. -/
def enqueue (codec : InboxCodec) (mail : Mailroom) (index : ℕ) : Mailroom :=
  match mail.sends[index]? with
  | some ⟨send, .queueing row device rest⟩ =>
      { mail with
        store := (Store.enqueueInbox device .priv send.groupId
          (codec.encode row.inboxPayload) mail.store).2
        sends := mail.advance index send (.mailing row rest) }
  | _ => mail

def step (codec : InboxCodec) (mail : Mailroom) : MailEvent → Mailroom
  | .lookup claims => mail.lookup claims
  | .register index => mail.register index
  | .drain index => mail.drain codec index
  | .close index => mail.close index
  | .submit fresh claims message => mail.submit fresh claims message
  | .storeRow index draw => mail.storeRow index draw
  | .publish index => mail.publish index
  | .list index => mail.list index
  | .check index => mail.check index
  | .enqueue index => mail.enqueue codec index

/-- The member devices a message is for: all but the sending one. -/
def Recipient (store : Store) (send : PrivateSend) (device : Uuid) : Prop :=
  device ∈ store.deviceIdsForGroup send.groupId ∧
    device ≠ send.claims.deviceId

def Reads (mail : Mailroom) (device : Uuid) : Prop :=
  ∃ (index : ℕ) (stream : MailStream),
    mail.streams[index]? = some stream ∧
      stream.claims.deviceId = device ∧ stream.phase = .reading

def receivedCount (mail : Mailroom) (device : Uuid)
    (message : ServerMessage) : ℕ :=
  mail.received.count ⟨device, message⟩

/-- No recipient ever receives a stored message twice, and every recipient
with an open stream has received it once its send is complete. -/
structure ExactlyOnce (mail : Mailroom) : Prop where
  noDuplicate : ∀ (index : ℕ) (task : SendTask) (row : PrivateMessageRow),
    mail.sends[index]? = some task → task.phase.row = some row →
    ∀ device, Recipient mail.store task.send device →
    mail.receivedCount device row.notification ≤ 1
  noLoss : ∀ (index : ℕ) (send : PrivateSend) (row : PrivateMessageRow),
    mail.sends[index]? = some ⟨send, .done row⟩ →
    ∀ device, Recipient mail.store send device → mail.Reads device →
    mail.receivedCount device row.notification = 1

/-- Some send has published its message and is still to check the device. -/
def Awaited (mail : Mailroom) (device : Uuid) : Prop :=
  ∃ (index : ℕ) (task : SendTask), mail.sends[index]? = some task ∧
    task.phase.awaits device = true ∧
    Recipient mail.store task.send device

/-- Tokens are authentic, a device neither connects nor disconnects between a
publication and the check of it, a stream closes only when no other stream of
its device is live, no client id is used twice in a group, and nothing is
queued for a device whose stream has been drained. -/
def Lawful (mail : Mailroom) : MailEvent → Prop
  | .lookup claims => ∃ row ∈ mail.store.devices,
      row.id = claims.deviceId ∧ row.userId = claims.sub
  | .register index => ∀ stream,
      mail.inPhase index .listed = some stream →
      mail.registry.isConnected stream.claims.deviceId = true ∨
        ¬ mail.Awaited stream.claims.deviceId
  | .close index => ∀ stream,
      mail.inPhase index .reading = some stream →
      ¬ mail.Awaited stream.claims.deviceId ∧
        ∀ (other : ℕ) (another : MailStream), other ≠ index →
          mail.streams[other]? = some another →
          another.claims.deviceId = stream.claims.deviceId →
          another.live = false
  | .storeRow index _ => ∀ send,
      mail.sends[index]? = some ⟨send, .storing⟩ →
      mail.store.findPrivateMessage send.groupId send.clientMessageId = none
  | .enqueue index => ∀ send row device rest,
      mail.sends[index]? = some ⟨send, .queueing row device rest⟩ →
      ¬ mail.Reads device
  | _ => True

end Mailroom

end Accord
