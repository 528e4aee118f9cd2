import Accord.Server.Messaging.Delivery
import Accord.Types.Wire

/-! The bus as it is written: ids travel as texts and are parsed where an event
is routed, whether it came over Redis or not. -/

namespace Accord

namespace Wire

structure PublicBusMessage where
  messageId : String
  groupId : String
  senderId : String
  senderDisplayName : String
  content : String
  timestampSecs : Int
  timestampNanos : Int
  sequenceNumber : UInt64
  deriving DecidableEq

structure PrivateBusMessage where
  groupId : String
  senderId : String
  ciphertext : Bytes
  epoch : UInt64
  timestampSecs : Int
  timestampNanos : Int
  sequenceNumber : UInt64
  deriving DecidableEq

inductive BusEvent where
  | pub (msg : PublicBusMessage)
  | priv (msg : PrivateBusMessage) (excludeDevice : String)
  | welcome (deviceId groupId : String) (welcome : Bytes)
  | commit (groupId : String) (commit : Bytes) (epoch : UInt64)
      (excludeDevice : String)
  deriving DecidableEq

inductive ServerMessage where
  | publicMessage (message : PublicBusMessage)
  | privateMessage (message : PrivateBusMessage)
  | welcomeNotification (groupId : String) (welcome : Bytes)
  | commitNotification (groupId : String) (commit : Bytes) (epoch : UInt64)
  deriving DecidableEq

structure Offer (Sender : Type) where
  device : Uuid
  sender : Sender
  message : ServerMessage
  deriving DecidableEq

def Offer.sent {Sender : Type} (offer : Offer Sender) :
    Sender × ServerMessage :=
  (offer.sender, offer.message)

section Route

variable {Sender : Type} (registry : Registry Sender)

def deliverToGroup (group : Uuid) (message : ServerMessage)
    (exclude : Option Uuid) : List (Offer Sender) :=
  ((registry.groupSubs.row group).entries.filter
      fun entry => some entry.1 != exclude).map
    fun entry => ⟨entry.1, entry.2, message⟩

def deliverToDevice (device : Uuid) (message : ServerMessage) :
    List (Offer Sender) :=
  match registry.deviceSubs.lookup device with
  | some sender => [⟨device, sender, message⟩]
  | none => []

def route : BusEvent → List (Offer Sender)
  | .pub msg =>
      match Uuid.parseStr msg.groupId with
      | some group =>
          deliverToGroup registry group (.publicMessage msg) none
      | none => []
  | .priv msg excludeDevice =>
      let group := Uuid.parseStr msg.groupId
      let exclude := Uuid.parseStr excludeDevice
      match group with
      | some group =>
          deliverToGroup registry group (.privateMessage msg) exclude
      | none => []
  | .welcome deviceId groupId welcome =>
      match Uuid.parseStr deviceId with
      | some device =>
          deliverToDevice registry device
            (.welcomeNotification groupId welcome)
      | none => []
  | .commit groupId commit epoch excludeDevice =>
      let group := Uuid.parseStr groupId
      let exclude := Uuid.parseStr excludeDevice
      match group with
      | some group =>
          deliverToGroup registry group
            (.commitNotification groupId commit epoch) exclude
      | none => []

end Route

/-- The form of an event on Redis, which decodes to what was encoded. -/
structure BusCodec where
  encode : BusEvent → Bytes
  decode : Bytes → Option BusEvent
  decode_encode : ∀ event, decode (encode event) = some event

/-! The text `serde_json` writes for an event. -/

def PublicBusMessage.json : Format UInt8 PublicBusMessage :=
  let messageId := Json.field "\"message_id\":\"" Json.string
  let groupId := Json.field ",\"group_id\":\"" Json.string
  let senderId := Json.field ",\"sender_id\":\"" Json.string
  let senderDisplayName :=
    Json.field ",\"sender_display_name\":\"" Json.string
  let content := Json.field ",\"content\":\"" Json.string
  let timestampSecs :=
    Json.field ",\"timestamp_secs\":" (Json.int ',' Json.closes_comma)
  let timestampNanos :=
    Json.field "\"timestamp_nanos\":" (Json.int ',' Json.closes_comma)
  let sequenceNumber :=
    Json.field "\"sequence_number\":" (Json.u64 '\x7d' Json.closes_brace)
  Format.convert
    (messageId.pair (groupId.pair (senderId.pair (senderDisplayName.pair
      (content.pair (timestampSecs.pair
        (timestampNanos.pair sequenceNumber)))))))
    (fun msg => (msg.messageId, msg.groupId, msg.senderId,
      msg.senderDisplayName, msg.content, msg.timestampSecs,
      msg.timestampNanos, msg.sequenceNumber))
    (fun found => ⟨found.1, found.2.1, found.2.2.1, found.2.2.2.1,
      found.2.2.2.2.1, found.2.2.2.2.2.1, found.2.2.2.2.2.2.1,
      found.2.2.2.2.2.2.2⟩)
    (fun _ => rfl)

def PrivateBusMessage.json : Format UInt8 PrivateBusMessage :=
  let groupId := Json.field "\"group_id\":\"" Json.string
  let senderId := Json.field ",\"sender_id\":\"" Json.string
  let ciphertext := Json.field ",\"ciphertext\":[" Json.byteArray
  let epoch := Json.field ",\"epoch\":" (Json.u64 ',' Json.closes_comma)
  let timestampSecs :=
    Json.field "\"timestamp_secs\":" (Json.int ',' Json.closes_comma)
  let timestampNanos :=
    Json.field "\"timestamp_nanos\":" (Json.int ',' Json.closes_comma)
  let sequenceNumber :=
    Json.field "\"sequence_number\":" (Json.u64 '\x7d' Json.closes_brace)
  Format.convert
    (groupId.pair (senderId.pair (ciphertext.pair (epoch.pair
      (timestampSecs.pair (timestampNanos.pair sequenceNumber))))))
    (fun msg => (msg.groupId, msg.senderId, msg.ciphertext, msg.epoch,
      msg.timestampSecs, msg.timestampNanos, msg.sequenceNumber))
    (fun found => ⟨found.1, found.2.1, found.2.2.1, found.2.2.2.1,
      found.2.2.2.2.1, found.2.2.2.2.2.1, found.2.2.2.2.2.2⟩)
    (fun _ => rfl)

namespace BusEvent

def mark (text : String) : Bytes := Json.bytesOf text.toList

def privJson : Format UInt8 (PrivateBusMessage × String) :=
  (PrivateBusMessage.json.pair
    (Json.field ",\"exclude_device\":\"" Json.string)).before
      (mark "\x7d\x7d")

def welcomeJson : Format UInt8 (String × String × Bytes) :=
  ((Json.field "\"device_id\":\"" Json.string).pair
    ((Json.field ",\"group_id\":\"" Json.string).pair
      (Json.field ",\"welcome\":[" Json.byteArray))).before
        (mark "\x7d\x7d")

def commitJson : Format UInt8 (String × Bytes × UInt64 × String) :=
  ((Json.field "\"group_id\":\"" Json.string).pair
    ((Json.field ",\"commit\":[" Json.byteArray).pair
      ((Json.field ",\"epoch\":" (Json.u64 ',' Json.closes_comma)).pair
        (Json.field "\"exclude_device\":\"" Json.string)))).before
          (mark "\x7d\x7d")

def welcomeOrCommit : Format UInt8
    ((String × String × Bytes) ⊕ (String × Bytes × UInt64 × String)) :=
  .either (mark "\x7b\"Welcome\":\x7b") welcomeJson
    (.after (mark "\x7b\"Commit\":\x7b") commitJson)
    fun _ => Format.apart_append (by decide) _

def privateOrMls : Format UInt8
    ((PrivateBusMessage × String) ⊕ (String × String × Bytes) ⊕
      (String × Bytes × UInt64 × String)) :=
  .either (mark "\x7b\"Private\":\x7b\"msg\":\x7b") privJson
    welcomeOrCommit
    fun
      | .inl _ => Format.apart_append (by decide) _
      | .inr _ => Format.apart_append (by decide) _

def json : Format UInt8 BusEvent :=
  .convert
    (.either (mark "\x7b\"Public\":\x7b")
      (PublicBusMessage.json.before (mark "\x7d")) privateOrMls
      fun
        | .inl _ => Format.apart_append (by decide) _
        | .inr (.inl _) => Format.apart_append (by decide) _
        | .inr (.inr _) => Format.apart_append (by decide) _)
    (fun
      | .pub msg => .inl msg
      | .priv msg excludeDevice => .inr (.inl (msg, excludeDevice))
      | .welcome deviceId groupId bytes =>
          .inr (.inr (.inl (deviceId, groupId, bytes)))
      | .commit groupId bytes epoch excludeDevice =>
          .inr (.inr (.inr (groupId, bytes, epoch, excludeDevice))))
    (fun
      | .inl msg => .pub msg
      | .inr (.inl (msg, excludeDevice)) => .priv msg excludeDevice
      | .inr (.inr (.inl (deviceId, groupId, bytes))) =>
          .welcome deviceId groupId bytes
      | .inr (.inr (.inr (groupId, bytes, epoch, excludeDevice))) =>
          .commit groupId bytes epoch excludeDevice)
    (by
      intro event
      cases event <;> rfl)

end BusEvent

def BusCodec.json : BusCodec where
  encode := BusEvent.json.write
  decode := BusEvent.json.decode
  decode_encode := BusEvent.json.decode_write

example : BusCodec.json.encode (.commit "g" [1, 20] 3 "a\"b") =
    Json.bytesOf ("\x7b\"Commit\":\x7b\"group_id\":\"g\"," ++
      "\"commit\":[1,20],\"epoch\":3," ++
      "\"exclude_device\":\"a\\\"b\"\x7d\x7d").toList := by
  decide +kernel

inductive Transport where
  | redis
  | inProcess

section Publish

variable (codec : BusCodec) (capacity : ℕ)

def routed (event : BusEvent) (delivery : Delivery ServerMessage) :
    Delivery ServerMessage :=
  delivery.sendAll capacity ((route delivery.registry event).map Offer.sent)

def hear (payload : Bytes) (delivery : Delivery ServerMessage) :
    Delivery ServerMessage :=
  match codec.decode payload with
  | some event => routed capacity event delivery
  | none => delivery

/-- With the listener of the same instance, where the transport is Redis. -/
def publish (transport : Transport) (event : BusEvent)
    (delivery : Delivery ServerMessage) : Delivery ServerMessage :=
  match transport with
  | .redis => hear codec capacity (codec.encode event) delivery
  | .inProcess => routed capacity event delivery

end Publish

/-! What an event is for, and what becomes of it. -/

namespace BusEvent

def group : BusEvent → Option Uuid
  | .pub msg => Uuid.parseStr msg.groupId
  | .priv msg _ => Uuid.parseStr msg.groupId
  | .welcome _ _ _ => none
  | .commit groupId _ _ _ => Uuid.parseStr groupId

def exclude : BusEvent → Option Uuid
  | .pub _ => none
  | .priv _ excludeDevice => Uuid.parseStr excludeDevice
  | .welcome _ _ _ => none
  | .commit _ _ _ excludeDevice => Uuid.parseStr excludeDevice

def device : BusEvent → Option Uuid
  | .welcome deviceId _ _ => Uuid.parseStr deviceId
  | _ => none

def message : BusEvent → ServerMessage
  | .pub msg => .publicMessage msg
  | .priv msg _ => .privateMessage msg
  | .welcome _ groupId bytes => .welcomeNotification groupId bytes
  | .commit groupId bytes epoch _ => .commitNotification groupId bytes epoch

end BusEvent

section FansOut

variable {Sender : Type} {registry : Registry Sender}

/-- A group event is offered once to every subscribed device but the excluded
one, and a Welcome to its device. -/
structure FansOut (registry : Registry Sender) (event : BusEvent)
    (offers : List (Offer Sender)) : Prop where
  message : ∀ offer ∈ offers, offer.message = event.message
  subscribed : ∀ group, event.group = some group → ∀ offer ∈ offers,
    registry.subscription group offer.device = some offer.sender
  once : ∀ group, event.group = some group → ∀ device,
    (offers.map (·.device)).count device =
      if (registry.subscription group device).isSome = true ∧
        event.exclude ≠ some device then 1 else 0
  targeted : ∀ device, event.device = some device →
    offers.map (·.device) =
      if (registry.senderOf device).isSome then [device] else []
  direct : ∀ device, event.device = some device → ∀ offer ∈ offers,
    registry.senderOf device = some offer.sender
  nobody : event.group = none → event.device = none → offers = []

theorem mem_deliverToGroup {group : Uuid} {message : ServerMessage}
    {exclude : Option Uuid} {offer : Offer Sender} :
    offer ∈ deliverToGroup registry group message exclude ↔
      offer.message = message ∧ some offer.device ≠ exclude ∧
        registry.subscription group offer.device = some offer.sender := by
  unfold deliverToGroup Registry.subscription Nested.get
  simp only [List.mem_map, List.mem_filter, bne_iff_ne]
  constructor
  · intro found
    obtain ⟨entry, ⟨member, included⟩, rfl⟩ := found
    exact ⟨rfl, included, AList.mem_lookup_iff.mpr member⟩
  · obtain ⟨device, sender, offered⟩ := offer
    intro found
    obtain ⟨rfl, included, subscribed⟩ := found
    exact ⟨⟨device, sender⟩,
      ⟨AList.mem_lookup_iff.mp subscribed, included⟩, rfl⟩

private theorem nodup_deliverToGroup (group : Uuid) (message : ServerMessage)
    (exclude : Option Uuid) :
    ((deliverToGroup registry group message exclude).map
      (·.device)).Nodup := by
  have keys : (registry.groupSubs.row group).entries.NodupKeys :=
    (registry.groupSubs.row group).nodupKeys
  unfold deliverToGroup
  rw [List.map_map]
  exact List.NodupKeys.sublist List.filter_sublist keys

private theorem count_deliverToGroup (group : Uuid) (message : ServerMessage)
    (exclude : Option Uuid) (device : Uuid) :
    ((deliverToGroup registry group message exclude).map
      (·.device)).count device =
      if (registry.subscription group device).isSome = true ∧
        exclude ≠ some device then 1 else 0 := by
  rw [(nodup_deliverToGroup group message exclude).count]
  refine if_congr ?_ rfl rfl
  rw [List.mem_map, Option.isSome_iff_exists]
  constructor
  · rintro ⟨offer, offered, rfl⟩
    obtain ⟨-, included, subscribed⟩ := mem_deliverToGroup.mp offered
    exact ⟨⟨_, subscribed⟩, included.symm⟩
  · rintro ⟨⟨sender, subscribed⟩, included⟩
    exact ⟨⟨device, sender, message⟩,
      mem_deliverToGroup.mpr ⟨rfl, included.symm, subscribed⟩, rfl⟩

private theorem route_group {event : BusEvent} {group : Uuid}
    (named : event.group = some group) :
    route registry event =
      deliverToGroup registry group event.message event.exclude := by
  cases event with
  | pub msg =>
      simp only [BusEvent.group] at named
      simp only [route, named, BusEvent.message, BusEvent.exclude]
  | priv msg excludeDevice =>
      simp only [BusEvent.group] at named
      simp only [route, named, BusEvent.message, BusEvent.exclude]
  | welcome deviceId groupId welcome => cases named
  | commit groupId commit epoch excludeDevice =>
      simp only [BusEvent.group] at named
      simp only [route, named, BusEvent.message, BusEvent.exclude]

private theorem route_device {event : BusEvent} {device : Uuid}
    (named : event.device = some device) :
    route registry event =
      deliverToDevice registry device event.message := by
  cases event with
  | welcome deviceId groupId welcome =>
      simp only [BusEvent.device] at named
      simp only [route, named, BusEvent.message]
  | _ => cases named

private theorem route_nobody {event : BusEvent} (groupless : event.group = none)
    (deviceless : event.device = none) : route registry event = [] := by
  cases event with
  | welcome deviceId groupId welcome =>
      simp only [BusEvent.device] at deviceless
      simp only [route, deviceless]
  | pub msg =>
      simp only [BusEvent.group] at groupless
      simp only [route, groupless]
  | priv msg excludeDevice =>
      simp only [BusEvent.group] at groupless
      simp only [route, groupless]
  | commit groupId commit epoch excludeDevice =>
      simp only [BusEvent.group] at groupless
      simp only [route, groupless]

private theorem route_fansOut (registry : Registry Sender) (event : BusEvent) :
    FansOut registry event (route registry event) := by
  constructor
  · intro offer offered
    cases groups : event.group with
    | some group =>
        rw [route_group groups] at offered
        exact (mem_deliverToGroup.mp offered).1
    | none =>
        cases devices : event.device with
        | some device =>
            rw [route_device devices] at offered
            unfold deliverToDevice at offered
            split at offered
            · cases List.mem_singleton.mp offered
              rfl
            · cases offered
        | none =>
            rw [route_nobody groups devices] at offered
            cases offered
  · intro group named offer offered
    rw [route_group named] at offered
    exact (mem_deliverToGroup.mp offered).2.2
  · intro group named device
    rw [route_group named]
    exact count_deliverToGroup group event.message event.exclude device
  · intro device named
    rw [route_device named, deliverToDevice, Registry.senderOf]
    cases registry.deviceSubs.lookup device with
    | some sender => rfl
    | none => rfl
  · intro device named offer offered
    rw [route_device named, deliverToDevice] at offered
    cases connected : registry.deviceSubs.lookup device with
    | some sender =>
        rw [connected] at offered
        cases List.mem_singleton.mp offered
        exact connected
    | none =>
        rw [connected] at offered
        cases offered
  · exact route_nobody

end FansOut

/-! No buffer is full: every send finds room. -/

def HasRoom (capacity : ℕ) (event : BusEvent)
    (delivery : Delivery ServerMessage) : Prop :=
  ∀ channel queue, delivery.channels[channel]? = some queue →
    queue.length + (Delivery.sentTo channel
      ((route delivery.registry event).map Offer.sent)).length ≤ capacity

private theorem channel_routed {capacity : ℕ} {event : BusEvent}
    {delivery : Delivery ServerMessage}
    (room : HasRoom capacity event delivery) (channel : ℕ) :
    (routed capacity event delivery).channels[channel]? =
      delivery.channels[channel]?.map (· ++ Delivery.sentTo channel
        ((route delivery.registry event).map Offer.sent)) := by
  unfold routed
  rw [Delivery.channel_sendAll]
  cases stored : delivery.channels[channel]? with
  | none => rfl
  | some queue =>
      have enough := room channel queue stored
      rw [Option.map_some, Option.map_some,
        Channel.sendAll_eq (by omega), List.take_of_length_le (by omega)]

private theorem publish_redis (codec : BusCodec) (capacity : ℕ)
    (event : BusEvent)
    (delivery : Delivery ServerMessage) :
    publish codec capacity .redis event delivery =
      publish codec capacity .inProcess event delivery := by
  simp only [publish, hear, codec.decode_encode]

/-- Both transports fill the same channels, with what each of them is offered
and nothing else. -/
theorem publish_agrees (codec : BusCodec) (capacity : ℕ) (event : BusEvent)
    (delivery : Delivery ServerMessage)
    (room : HasRoom capacity event delivery) :
    publish codec capacity .redis event delivery =
        publish codec capacity .inProcess event delivery ∧
      FansOut delivery.registry event (route delivery.registry event) ∧
      ∀ transport channel,
        (publish codec capacity transport event delivery).channels[channel]? =
          delivery.channels[channel]?.map (· ++ Delivery.sentTo channel
            ((route delivery.registry event).map Offer.sent)) := by
  refine ⟨publish_redis codec capacity event delivery,
    route_fansOut delivery.registry event, ?_⟩
  intro transport channel
  cases transport with
  | redis =>
      rw [publish_redis]
      exact channel_routed room channel
  | inProcess => exact channel_routed room channel

end Wire

/-! The events of the handlers, with their ids printed. -/

def PublicBusMessage.wire (message : PublicBusMessage) :
    Wire.PublicBusMessage where
  messageId := message.messageId.text
  groupId := message.groupId.text
  senderId := message.senderId.text
  senderDisplayName := message.senderDisplayName
  content := message.content
  timestampSecs := message.timestampSecs
  timestampNanos := message.timestampNanos
  sequenceNumber := message.sequenceNumber

def PrivateBusMessage.wire (message : PrivateBusMessage) :
    Wire.PrivateBusMessage where
  groupId := message.groupId.text
  senderId := message.senderId.text
  ciphertext := message.ciphertext
  epoch := message.epoch
  timestampSecs := message.timestampSecs
  timestampNanos := message.timestampNanos
  sequenceNumber := message.sequenceNumber

def ServerMessage.wire : ServerMessage → Wire.ServerMessage
  | .publicMessage message => .publicMessage message.wire
  | .privateMessage message => .privateMessage message.wire
  | .welcomeNotification groupId welcome =>
      .welcomeNotification groupId.text welcome
  | .commitNotification groupId commit epoch =>
      .commitNotification groupId.text commit epoch

/-- `publish_public`, `publish_private`, `publish_welcome` and
`publish_commit` make these. -/
def BusEvent.wire : BusEvent → Wire.BusEvent
  | .pub message => .pub message.wire
  | .priv message excludeDevice => .priv message.wire excludeDevice.text
  | .welcome deviceId groupId bytes =>
      .welcome deviceId.text groupId.text bytes
  | .commit groupId bytes epoch excludeDevice =>
      .commit groupId.text bytes epoch excludeDevice.text

namespace Wire

variable {Sender : Type}

private theorem deliverToGroup_wire (registry : Registry Sender) (group : Uuid)
    (message : Accord.ServerMessage) (exclude : Option Uuid) :
    (deliverToGroup registry group message.wire exclude).map Offer.sent =
      (registry.deliverToGroup group message exclude).map
        (Prod.map id (·.wire)) := by
  unfold deliverToGroup Registry.deliverToGroup
  rw [List.map_map, List.map_map]
  rfl

private theorem deliverToDevice_wire (registry : Registry Sender)
    (device : Uuid)
    (message : Accord.ServerMessage) :
    (deliverToDevice registry device message.wire).map Offer.sent =
      (registry.deliverToDevice device message).map
        (Prod.map id (·.wire)) := by
  unfold deliverToDevice Registry.deliverToDevice
  cases registry.deviceSubs.lookup device with
  | some sender => rfl
  | none => rfl

/-- Printing the ids and parsing them again routes as if they had never been
texts. -/
theorem route_wire (registry : Registry Sender) (event : Accord.BusEvent) :
    (route registry event.wire).map Offer.sent =
      (registry.route event).map (Prod.map id (·.wire)) := by
  cases event with
  | pub message =>
      simp only [route, BusEvent.wire, PublicBusMessage.wire,
        Uuid.parseStr_text]
      exact deliverToGroup_wire registry _ (.publicMessage message) none
  | priv message excludeDevice =>
      simp only [route, BusEvent.wire, PrivateBusMessage.wire,
        Uuid.parseStr_text]
      exact deliverToGroup_wire registry _ (.privateMessage message) _
  | welcome deviceId groupId bytes =>
      simp only [route, BusEvent.wire, Uuid.parseStr_text]
      exact deliverToDevice_wire registry _
        (.welcomeNotification groupId bytes)
  | commit groupId bytes epoch excludeDevice =>
      simp only [route, BusEvent.wire, Uuid.parseStr_text]
      exact deliverToGroup_wire registry _
        (.commitNotification groupId bytes epoch) _

def twoListeners : Delivery ServerMessage :=
  (((({} : Delivery ServerMessage).register 21 [7]).register 22 [7]).register
    23 [])

theorem commit_to_other :
    route twoListeners.registry
        (BusEvent.wire (.commit 7 [1, 2] 3 21)) =
      [⟨22, 1, .commitNotification (Uuid.text 7) [1, 2] 3⟩] ∧
      publish BusCodec.json 256 .redis (BusEvent.wire (.commit 7 [1, 2] 3 21))
          twoListeners =
        publish BusCodec.json 256 .inProcess
          (BusEvent.wire (.commit 7 [1, 2] 3 21)) twoListeners := by
  have offers : route twoListeners.registry
      (BusEvent.wire (.commit 7 [1, 2] 3 21)) =
      [⟨22, 1, .commitNotification (Uuid.text 7) [1, 2] 3⟩] := by
    decide +kernel
  refine ⟨offers, (publish_agrees BusCodec.json 256 _ twoListeners ?_).1⟩
  intro channel queue stored
  have empty : queue = [] := by
    have listed : queue ∈ [[], [], []] := List.mem_of_getElem? stored
    simpa using listed
  have once := List.length_filter_le (fun offer => offer.1 == channel)
    ((route twoListeners.registry
      (BusEvent.wire (.commit 7 [1, 2] 3 21))).map Offer.sent)
  rw [offers] at once ⊢
  subst empty
  simp only [Delivery.sentTo, List.length_map, List.length_nil,
    List.length_singleton, List.map_cons, List.map_nil] at once ⊢
  omega

end Wire

end Accord
