import Accord.Server.Messaging.Delivery
import Accord.Server.Store.Inbox

/-! Opening a stream.  The device is registered, its inbox is drained, and
every drained row is sent to the channel of the device, which nobody reads
before the call returns.  Live events reach the channel in between. -/

namespace Accord

def clientBuffer : ℕ := 128

structure PrivateInboxPayload where
  ciphertext : Bytes
  senderId : Uuid
  epoch : UInt64
  timestampSecs : Int
  timestampNanos : Int
  sequenceNumber : UInt64
  deriving DecidableEq

inductive Origin where
  | live
  | mailbox
  deriving DecidableEq

structure Queued where
  origin : Origin
  message : ServerMessage
  deriving DecidableEq

inductive Arrival where
  | live (event : BusEvent)
  | drained (row : InboxRow)

namespace MessagingSvc

/-! `decode` stands for the JSON decoder of stored private payloads. -/

variable (decode : Bytes → Option PrivateInboxPayload)

def privateNotification (groupId : Uuid) (payload : Bytes) :
    Option ServerMessage :=
  (decode payload).map fun decoded => .privateMessage {
    groupId
    senderId := decoded.senderId
    ciphertext := decoded.ciphertext
    epoch := decoded.epoch
    timestampSecs := decoded.timestampSecs
    timestampNanos := decoded.timestampNanos
    sequenceNumber := decoded.sequenceNumber }

/-- The message of a drained row.  A queued Commit has lost its epoch, and a
private payload that does not decode is skipped. -/
def inboxMessage (row : InboxRow) : Option ServerMessage :=
  match row.kind with
  | .welcome => some (.welcomeNotification row.groupId row.payload)
  | .commit => some (.commitNotification row.groupId row.payload 0)
  | .priv => privateNotification decode row.groupId row.payload

def offersOf (device : Uuid) (registry : Registry ℕ) :
    Arrival → List (ℕ × Queued)
  | .live event =>
      (registry.route event).map fun offer => (offer.1, ⟨.live, offer.2⟩)
  | .drained row =>
      match inboxMessage decode row with
      | some message =>
          (registry.deliverToDevice device message).map
            fun offer => (offer.1, ⟨.mailbox, offer.2⟩)
      | none => []

def arrive (capacity : ℕ) (device : Uuid) (delivery : Delivery Queued)
    (arrival : Arrival) : Delivery Queued :=
  delivery.sendAll capacity (offersOf decode device delivery.registry arrival)

/-- `traffic` gives the events published before each drained row is sent. -/
def arrivals (traffic : ℕ → List BusEvent) (rows : List InboxRow) :
    List Arrival :=
  rows.zipIdx.flatMap fun entry =>
    (traffic entry.2).map .live ++ [.drained entry.1]

/-- `message_stream` up to the point where the stream is handed back. -/
def messageStream (capacity : ℕ) (device : Uuid) (groups : List Uuid)
    (traffic : ℕ → List BusEvent) (store : Store)
    (delivery : Delivery Queued) : Store × Delivery Queued :=
  let drained := store.drainInbox device
  (drained.2,
    EventRun.run (arrive decode capacity device)
      (delivery.register device groups) (arrivals traffic drained.1))

/-- Everything sent to a channel by a list of arrivals, in order. -/
def sends (device : Uuid) (registry : Registry ℕ) (channel : ℕ)
    (incoming : List Arrival) : List Queued :=
  Delivery.sentTo channel (incoming.flatMap (offersOf decode device registry))

def mailboxOf (items : List Queued) : List ServerMessage :=
  (items.filter (·.origin == .mailbox)).map (·.message)

def drainedIn (delivery : Delivery Queued) (channel : ℕ) :
    List ServerMessage :=
  mailboxOf (delivery.channels[channel]?.getD [])

def drainedMessage : Arrival → List ServerMessage
  | .live _ => []
  | .drained row => (inboxMessage decode row).toList

section Sends

variable {decode} {capacity : ℕ} {device : Uuid}

private theorem run_arrive (delivery : Delivery Queued)
    (incoming : List Arrival) :
    EventRun.run (arrive decode capacity device) delivery incoming =
      delivery.sendAll capacity
        (incoming.flatMap (offersOf decode device delivery.registry)) := by
  induction incoming generalizing delivery with
  | nil => rfl
  | cons arrival rest induction =>
      rw [EventRun.run_cons, induction]
      unfold arrive
      rw [Delivery.registry_sendAll, List.flatMap_cons]
      unfold Delivery.sendAll
      rw [List.foldl_append]

/-- The fresh channel ends with the first sends, up to its capacity. -/
private theorem channel_messageStream (groups : List Uuid)
    (traffic : ℕ → List BusEvent) (store : Store)
    (delivery : Delivery Queued) :
    (messageStream decode capacity device groups traffic store
        delivery).2.channels[delivery.channels.length]? =
      some ((sends decode device
        (delivery.register device groups).registry delivery.channels.length
        (arrivals traffic (store.drainInbox device).1)).take capacity) := by
  unfold messageStream sends
  simp only
  rw [run_arrive, Delivery.channel_sendAll]
  simp [Delivery.register, Channel.sendAll_nil]

section Mailbox

variable {registry : Registry ℕ} {channel : ℕ}
  (direct : registry.senderOf device = some channel)

include direct in
private theorem mailboxOf_offersOf (arrival : Arrival) :
    mailboxOf (Delivery.sentTo channel
        (offersOf decode device registry arrival)) =
      drainedMessage decode arrival := by
  cases arrival with
  | live event =>
      simp only [mailboxOf, offersOf, Delivery.sentTo, drainedMessage,
        List.filter_map, List.map_map, List.map_eq_nil_iff]
      rw [List.filter_eq_nil_iff]
      intro offer _
      exact Bool.false_ne_true
  | drained row =>
      unfold Registry.senderOf at direct
      cases message : inboxMessage decode row with
      | none =>
          simp [mailboxOf, offersOf, drainedMessage, message,
            Delivery.sentTo]
      | some text =>
          simp [mailboxOf, offersOf, drainedMessage, message,
            Delivery.sentTo, Registry.deliverToDevice, direct]

include direct in
private theorem mailboxOf_sends (incoming : List Arrival) :
    mailboxOf (sends decode device registry channel incoming) =
      incoming.flatMap (drainedMessage decode) := by
  induction incoming with
  | nil => rfl
  | cons arrival rest induction =>
      have first : mailboxOf (Delivery.sentTo channel
          (offersOf decode device registry arrival)) = _ :=
        mailboxOf_offersOf direct arrival
      rw [List.flatMap_cons, ← first, ← induction]
      simp [mailboxOf, sends, Delivery.sentTo]

end Mailbox

private theorem drainedMessage_arrivals (traffic : ℕ → List BusEvent)
    (rows : List InboxRow) :
    (arrivals traffic rows).flatMap (drainedMessage decode) =
      rows.filterMap (inboxMessage decode) := by
  have quiet : ∀ events : List BusEvent,
      (events.map Arrival.live).flatMap (drainedMessage decode) = [] := by
    intro events
    induction events with
    | nil => rfl
    | cons event rest induction => exact induction
  unfold arrivals
  generalize 0 = start
  induction rows generalizing start with
  | nil => rfl
  | cons row rest induction =>
      rw [List.zipIdx_cons, List.flatMap_cons, List.flatMap_append,
        List.flatMap_append, quiet, induction, List.filterMap_cons]
      cases message : inboxMessage decode row with
      | none => simp [drainedMessage, message]
      | some text => simp [drainedMessage, message]

end Sends

/-- The drain places every decodable row, in order, exactly when none of them
is sent after the channel has been sent as much as it holds. -/
theorem drain_places_all_iff (capacity : ℕ) (device : Uuid)
    (groups : List Uuid) (traffic : ℕ → List BusEvent) (store : Store)
    (delivery : Delivery Queued) :
    drainedIn (messageStream decode capacity device groups traffic store
        delivery).2 delivery.channels.length =
      (store.drainInbox device).1.filterMap (inboxMessage decode) ↔
    ∀ sent ∈ (sends decode device
        (delivery.register device groups).registry delivery.channels.length
        (arrivals traffic (store.drainInbox device).1)).drop capacity,
      sent.origin = .live := by
  have direct : (delivery.register device groups).registry.senderOf device =
      some delivery.channels.length := by
    change (delivery.registry.register _ _ _).senderOf _ = _
    rw [Registry.senderOf_register, if_pos rfl]
  unfold drainedIn
  rw [channel_messageStream, Option.getD_some,
    ← drainedMessage_arrivals traffic, ← mailboxOf_sends direct]
  unfold mailboxOf
  rw [Channel.filter_take_iff]
  constructor
  · intro absent sent member
    have other := absent sent member
    cases origin : sent.origin with
    | live => rfl
    | mailbox => simp [origin] at other
  · intro live sent member
    rw [live sent member]
    rfl

private theorem length_drainedIn_le (capacity : ℕ) (device : Uuid)
    (groups : List Uuid) (traffic : ℕ → List BusEvent) (store : Store)
    (delivery : Delivery Queued) :
    (drainedIn (messageStream decode capacity device groups traffic store
      delivery).2 delivery.channels.length).length ≤ capacity := by
  unfold drainedIn mailboxOf
  rw [channel_messageStream, Option.getD_some, List.length_map]
  exact le_trans (List.length_filter_le _ _) (List.length_take_le _ _)

def crowdedStore : Store where
  inbox := List.replicate (clientBuffer + 1) ⟨7, .welcome, 1, [0]⟩

theorem crowdedStore_loses_a_row :
    drainedIn (messageStream (fun _ => none) clientBuffer 7 [1] (fun _ => [])
        crowdedStore {}).2 0 ≠
      (crowdedStore.drainInbox 7).1.filterMap
        (inboxMessage fun _ => none) := by
  intro claimed
  have held := length_drainedIn_le (fun _ => none) clientBuffer 7 [1]
    (fun _ => []) crowdedStore {}
  have rows : (crowdedStore.drainInbox 7).1 =
      List.replicate (clientBuffer + 1) ⟨7, .welcome, 1, [0]⟩ :=
    List.filter_replicate_of_pos rfl
  have sent : ((crowdedStore.drainInbox 7).1.filterMap
      (inboxMessage fun _ => none)).length = clientBuffer + 1 := by
    rw [rows]
    simp [List.filterMap_replicate, inboxMessage]
  change (drainedIn _ 0).length ≤ clientBuffer at held
  rw [claimed, sent] at held
  omega

end MessagingSvc

end Accord
