import Accord.Server.Messaging.FanOut
import Accord.Server.Messaging.Mailbox
import Accord.Types.Codes

/-! The three ways of a stored private message to a client: live, out of the
mailbox, and as a page of the history.  Integers are as wide as the columns
and the wire have them, and ids are texts on the wire. -/

namespace Accord

/-- What `timestamp` and `timestamp_subsec_nanos` read off a time: the seconds
are rounded down, and a leap second shows as a second billion of
nanoseconds. -/
structure DateTime where
  timestamp : Int64
  timestampSubsecNanos : UInt32
  bounded : timestampSubsecNanos.toNat < 2000000000
  deriving DecidableEq

/-- `timestamp_millis_opt`, within the range of the type. -/
def DateTime.ofMillis (millis : Int) : DateTime where
  timestamp := Int64.ofInt (millis / 1000)
  timestampSubsecNanos := UInt32.ofNat ((millis % 1000).toNat * 1000000)
  bounded := by
    have below : (millis % 1000).toNat < 1000 := by omega
    rw [UInt32.toNat_ofNat', Nat.mod_eq_of_lt (by omega)]
    omega

namespace Sized

structure PrivateMessageRow where
  id : Uuid
  groupId : Uuid
  senderId : Uuid
  senderDeviceId : Uuid
  ciphertext : Bytes
  epoch : Int64
  seq : Int64
  createdAt : DateTime
  deriving DecidableEq

structure Timestamp where
  seconds : Int64
  nanos : Int32
  deriving DecidableEq

structure IncomingPrivateMessage where
  groupId : Option String
  senderId : Option String
  mlsCiphertext : Bytes
  epoch : UInt64
  timestamp : Option Timestamp
  sequenceNumber : UInt64
  deriving DecidableEq

structure PrivateBusMessage where
  groupId : String
  senderId : String
  ciphertext : Bytes
  epoch : UInt64
  timestampSecs : Int64
  timestampNanos : Int32
  sequenceNumber : UInt64
  deriving DecidableEq

structure PrivateInboxPayload where
  ciphertext : Bytes
  senderId : String
  epoch : UInt64
  timestampSecs : Int64
  timestampNanos : Int32
  sequenceNumber : UInt64
  deriving DecidableEq

def PrivateBusMessage.intoServerMessage (message : PrivateBusMessage) :
    IncomingPrivateMessage where
  groupId := some message.groupId
  senderId := some message.senderId
  mlsCiphertext := message.ciphertext
  epoch := message.epoch
  timestamp := some ⟨message.timestampSecs, message.timestampNanos⟩
  sequenceNumber := message.sequenceNumber

section Inbox

variable (codec : JsonCodec PrivateInboxPayload)

def encodePrivateInbox (payload : PrivateInboxPayload) : Bytes :=
  codec.toVec payload

def privateNotification (groupId : String) (payload : Bytes) :
    Option IncomingPrivateMessage :=
  (codec.fromSlice payload).map fun p => {
    groupId := some groupId
    senderId := some p.senderId
    mlsCiphertext := p.ciphertext
    epoch := p.epoch
    timestamp := some ⟨p.timestampSecs, p.timestampNanos⟩
    sequenceNumber := p.sequenceNumber }

end Inbox

def toProtoTimestamp (dt : DateTime) : Timestamp where
  seconds := dt.timestamp
  nanos := dt.timestampSubsecNanos.toInt32

namespace PrivateMessageRow

variable (row : PrivateMessageRow)

def inboxPayload : PrivateInboxPayload where
  ciphertext := row.ciphertext
  senderId := row.senderId.text
  epoch := row.epoch.toUInt64
  timestampSecs := row.createdAt.timestamp
  timestampNanos := row.createdAt.timestampSubsecNanos.toInt32
  sequenceNumber := row.seq.toUInt64

def busMessage : PrivateBusMessage where
  groupId := row.groupId.text
  senderId := row.senderId.text
  ciphertext := row.ciphertext
  epoch := row.epoch.toUInt64
  timestampSecs := row.createdAt.timestamp
  timestampNanos := row.createdAt.timestampSubsecNanos.toInt32
  sequenceNumber := row.seq.toUInt64

/-- `private_row_to_proto`. -/
def toProto : IncomingPrivateMessage where
  groupId := some row.groupId.text
  senderId := some row.senderId.text
  mlsCiphertext := row.ciphertext
  epoch := row.epoch.toUInt64
  timestamp := some (toProtoTimestamp row.createdAt)
  sequenceNumber := row.seq.toUInt64

/-- The message tells what the row was stored with. -/
structure Shows (message : IncomingPrivateMessage) : Prop where
  groupId : message.groupId.bind Uuid.parseStr = some row.groupId
  senderId : message.senderId.bind Uuid.parseStr = some row.senderId
  ciphertext : message.mlsCiphertext = row.ciphertext
  epoch : ∀ sent : UInt64, row.epoch = sent.toInt64 → message.epoch = sent
  timestamp : ∃ timestamp, message.timestamp = some timestamp ∧
    timestamp.seconds = row.createdAt.timestamp ∧
    timestamp.nanos.toInt = row.createdAt.timestampSubsecNanos.toNat
  sequenceNumber : message.sequenceNumber.toInt64 = row.seq

end PrivateMessageRow

private theorem toInt_nanos (dt : DateTime) :
    dt.timestampSubsecNanos.toInt32.toInt =
      dt.timestampSubsecNanos.toNat := by
  have bounded : dt.timestampSubsecNanos.toBitVec.toNat < 2000000000 :=
    dt.bounded
  change dt.timestampSubsecNanos.toBitVec.toInt = _
  exact BitVec.toInt_eq_toNat_of_lt (by omega)

private theorem PrivateMessageRow.shows_toProto (row : PrivateMessageRow) :
    row.Shows row.toProto where
  groupId := by rw [toProto, Option.bind_some, Uuid.parseStr_text]
  senderId := by rw [toProto, Option.bind_some, Uuid.parseStr_text]
  ciphertext := rfl
  epoch sent stored := by
    change row.epoch.toUInt64 = sent
    rw [stored, UInt64.toUInt64_toInt64]
  timestamp := ⟨toProtoTimestamp row.createdAt, rfl, rfl,
    toInt_nanos row.createdAt⟩
  sequenceNumber := Int64.toInt64_toUInt64 row.seq

private theorem privateNotification_encodePrivateInbox
    (codec : JsonCodec PrivateInboxPayload) (row : PrivateMessageRow) :
    privateNotification codec row.groupId.text
        (encodePrivateInbox codec row.inboxPayload) =
      some row.toProto := by
  unfold privateNotification encodePrivateInbox
  rw [codec.fromSlice_toVec]
  rfl

/-- However it reaches a client, a stored message is the same, and it is the
one that was stored. -/
theorem privatePaths_agree (codec : JsonCodec PrivateInboxPayload)
    (row : PrivateMessageRow) :
    row.busMessage.intoServerMessage = row.toProto ∧
      privateNotification codec row.groupId.text
          (encodePrivateInbox codec row.inboxPayload) = some row.toProto ∧
      row.Shows row.toProto :=
  ⟨rfl, privateNotification_encodePrivateInbox codec row, row.shows_toProto⟩

/-- The text `serde_json` writes for a payload. -/
def PrivateInboxPayload.json : Format UInt8 PrivateInboxPayload :=
  let ciphertext := Json.field "\x7b\"ciphertext\":[" Json.byteArray
  let senderId := Json.field ",\"sender_id\":" Json.quoted
  let epoch := Json.field ",\"epoch\":" (Json.u64 ',' Json.closes_comma)
  let timestampSecs :=
    Json.field "\"timestamp_secs\":" (Json.int ',' Json.closes_comma)
  let timestampNanos :=
    Json.field "\"timestamp_nanos\":" (Json.int ',' Json.closes_comma)
  let sequenceNumber :=
    Json.field "\"sequence_number\":" (Json.u64 '\x7d' Json.closes_brace)
  .convert
    (ciphertext.pair (senderId.pair (epoch.pair
      (timestampSecs.pair (timestampNanos.pair sequenceNumber)))))
    (fun payload => (payload.ciphertext, payload.senderId, payload.epoch,
      payload.timestampSecs.toInt, payload.timestampNanos.toInt,
      payload.sequenceNumber))
    (fun found => ⟨found.1, found.2.1, found.2.2.1,
      .ofInt found.2.2.2.1, .ofInt found.2.2.2.2.1, found.2.2.2.2.2⟩)
    (fun payload => by
      rw [Int64.ofInt_toInt, Int32.ofInt_toInt])

example : privateNotification (.ofFormat PrivateInboxPayload.json)
    (Uuid.text 5) (encodePrivateInbox (.ofFormat PrivateInboxPayload.json)
      (PrivateMessageRow.inboxPayload ⟨1, 5, 2, 21, [7], -1, 9,
        .ofMillis (-1)⟩)) =
    some ⟨some (Uuid.text 5), some (Uuid.text 2), [7], 18446744073709551615,
      some ⟨-1, 999000000⟩, 9⟩ := by
  decide +kernel

/-- The message as it is modelled where widths do not matter. -/
def PrivateBusMessage.wire (message : PrivateBusMessage) :
    Wire.PrivateBusMessage where
  groupId := message.groupId
  senderId := message.senderId
  ciphertext := message.ciphertext
  epoch := message.epoch
  timestampSecs := message.timestampSecs.toInt
  timestampNanos := message.timestampNanos.toInt
  sequenceNumber := message.sequenceNumber

end Sized

/-- The columns of a row.  Both databases store the epoch as an `i64`. -/
def PrivateMessageRow.sized (row : PrivateMessageRow) :
    Sized.PrivateMessageRow where
  id := row.id
  groupId := row.groupId
  senderId := row.senderId
  senderDeviceId := row.senderDeviceId
  ciphertext := row.ciphertext
  epoch := row.epoch.toInt64
  seq := Int64.ofNat row.seq
  createdAt := .ofMillis row.createdAt

private theorem toInt_timestamp_ofMillis {millis : Int} (low : -2 ^ 63 ≤ millis)
    (high : millis < 2 ^ 63) :
    (DateTime.ofMillis millis).timestamp.toInt = millis / 1000 := by
  apply Int64.toInt_ofInt_of_le <;> omega

private theorem toNat_subsecNanos_ofMillis (millis : Int) :
    ((DateTime.ofMillis millis).timestampSubsecNanos.toNat : Int) =
      millis % 1000 * 1000000 := by
  have below : (millis % 1000).toNat < 1000 := by omega
  rw [DateTime.ofMillis, UInt32.toNat_ofNat', Nat.mod_eq_of_lt (by omega)]
  omega

theorem PrivateMessageRow.busMessage_sized (row : PrivateMessageRow)
    (low : -2 ^ 63 ≤ row.createdAt) (high : row.createdAt < 2 ^ 63) :
    row.sized.busMessage.wire = row.busMessage.wire := by
  have seconds := toInt_timestamp_ofMillis low high
  have nanos := (Sized.toInt_nanos (.ofMillis row.createdAt)).trans
    (toNat_subsecNanos_ofMillis row.createdAt)
  have number : (Int64.ofNat row.seq).toUInt64 = UInt64.ofNat row.seq := by
    apply UInt64.toBitVec_inj.mp
    rfl
  have epoch := UInt64.toUInt64_toInt64 row.epoch
  simp only [sized, Sized.PrivateMessageRow.busMessage,
    Sized.PrivateBusMessage.wire, busMessage, PrivateBusMessage.wire,
    seconds, nanos, number, epoch, timestampSecs, timestampNanos]

end Accord
