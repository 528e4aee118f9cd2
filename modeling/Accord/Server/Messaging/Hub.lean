import Accord.Server.Messaging.Registry

/-! Bus events and the offers they are routed to.  An offer is one
non-blocking send: a channel and the message put to it. -/

namespace Accord

structure PublicBusMessage where
  messageId : Uuid
  groupId : Uuid
  senderId : Uuid
  senderDisplayName : String
  content : String
  timestampSecs : Int
  timestampNanos : Int
  sequenceNumber : UInt64
  deriving DecidableEq

structure PrivateBusMessage where
  groupId : Uuid
  senderId : Uuid
  ciphertext : Bytes
  epoch : UInt64
  timestampSecs : Int
  timestampNanos : Int
  sequenceNumber : UInt64
  deriving DecidableEq

inductive ServerMessage where
  | publicMessage (message : PublicBusMessage)
  | privateMessage (message : PrivateBusMessage)
  | welcomeNotification (groupId : Uuid) (welcome : Bytes)
  | commitNotification (groupId : Uuid) (commit : Bytes) (epoch : UInt64)
  deriving DecidableEq

inductive BusEvent where
  | pub (message : PublicBusMessage)
  | priv (message : PrivateBusMessage) (excludeDevice : Uuid)
  | welcome (deviceId groupId : Uuid) (welcome : Bytes)
  | commit (groupId : Uuid) (commit : Bytes) (epoch : UInt64)
      (excludeDevice : Uuid)
  deriving DecidableEq

namespace BusEvent

def message : BusEvent → ServerMessage
  | .pub message => .publicMessage message
  | .priv message _ => .privateMessage message
  | .welcome _ groupId bytes => .welcomeNotification groupId bytes
  | .commit groupId bytes epoch _ => .commitNotification groupId bytes epoch

/-- The event is meant for a device that belongs to the given groups. -/
def targets (device : Uuid) (groups : List Uuid) : BusEvent → Bool
  | .pub message => groups.contains message.groupId
  | .priv message excludeDevice =>
      groups.contains message.groupId && device != excludeDevice
  | .welcome deviceId _ _ => device == deviceId
  | .commit groupId _ _ excludeDevice =>
      groups.contains groupId && device != excludeDevice

end BusEvent

namespace Registry

variable {Sender : Type}

def deliverToGroup (registry : Registry Sender) (group : Uuid)
    (message : ServerMessage) (exclude : Option Uuid) :
    List (Sender × ServerMessage) :=
  ((registry.groupSubs.row group).entries.filter
      fun entry => some entry.1 != exclude).map
    fun entry => (entry.2, message)

def deliverToDevice (registry : Registry Sender) (device : Uuid)
    (message : ServerMessage) : List (Sender × ServerMessage) :=
  match registry.deviceSubs.lookup device with
  | some sender => [(sender, message)]
  | none => []

def route (registry : Registry Sender) : BusEvent →
    List (Sender × ServerMessage)
  | .pub message =>
      registry.deliverToGroup message.groupId (.publicMessage message) none
  | .priv message excludeDevice =>
      registry.deliverToGroup message.groupId (.privateMessage message)
        (some excludeDevice)
  | .welcome deviceId groupId welcome =>
      registry.deliverToDevice deviceId
        (.welcomeNotification groupId welcome)
  | .commit groupId commit epoch excludeDevice =>
      registry.deliverToGroup groupId
        (.commitNotification groupId commit epoch) (some excludeDevice)

variable {registry : Registry Sender}

theorem mem_deliverToGroup {group : Uuid} {message offered : ServerMessage}
    {exclude : Option Uuid} {sender : Sender} :
    (sender, offered) ∈ registry.deliverToGroup group message exclude ↔
      offered = message ∧ ∃ device,
        registry.subscription group device = some sender ∧
          some device ≠ exclude := by
  unfold deliverToGroup subscription Nested.get
  simp only [List.mem_map, List.mem_filter, bne_iff_ne, Prod.mk.injEq]
  constructor
  · intro found
    obtain ⟨entry, ⟨member, included⟩, rfl, rfl⟩ := found
    exact ⟨rfl, entry.1, AList.mem_lookup_iff.mpr member, included⟩
  · intro found
    obtain ⟨rfl, device, subscribed, included⟩ := found
    exact ⟨⟨device, sender⟩,
      ⟨AList.mem_lookup_iff.mp subscribed, included⟩, rfl, rfl⟩

/-- A device that listens on a channel, to itself and to its groups, is
offered there whatever is meant for it. -/
theorem route_offers {device : Uuid} {groups : List Uuid} {sender : Sender}
    (direct : registry.senderOf device = some sender)
    (grouped : ∀ group ∈ groups,
      registry.subscription group device = some sender)
    {event : BusEvent} (meant : event.targets device groups = true) :
    (sender, event.message) ∈ registry.route event := by
  cases event with
  | pub message =>
      have member : message.groupId ∈ groups := by
        simpa [BusEvent.targets] using meant
      exact mem_deliverToGroup.mpr
        ⟨rfl, device, grouped _ member, by simp⟩
  | priv message excludeDevice =>
      have member : message.groupId ∈ groups ∧ device ≠ excludeDevice := by
        simpa [BusEvent.targets] using meant
      exact mem_deliverToGroup.mpr
        ⟨rfl, device, grouped _ member.1, by simpa using member.2⟩
  | welcome deviceId groupId welcome =>
      have same : device = deviceId := by
        simpa [BusEvent.targets] using meant
      subst same
      unfold senderOf at direct
      simp [route, deliverToDevice, direct, BusEvent.message]
  | commit groupId commit epoch excludeDevice =>
      have member : groupId ∈ groups ∧ device ≠ excludeDevice := by
        simpa [BusEvent.targets] using meant
      exact mem_deliverToGroup.mpr
        ⟨rfl, device, grouped _ member.1, by simpa using member.2⟩

end Registry

end Accord
