import Accord.Library.Channel
import Accord.Server.Messaging.Hub

/-! The hub together with the channels behind its senders.  A sender is the
place of its channel in the list of all channels ever made. -/

namespace Accord

structure Delivery (Item : Type) where
  registry : Registry ℕ := {}
  channels : List (List Item) := []

namespace Delivery

variable {Item : Type}

def register (delivery : Delivery Item) (device : Uuid)
    (groups : List Uuid) : Delivery Item where
  registry := delivery.registry.register device groups
    delivery.channels.length
  channels := delivery.channels ++ [[]]

def trySend (capacity : ℕ) (delivery : Delivery Item) (offer : ℕ × Item) :
    Delivery Item :=
  { delivery with
    channels := delivery.channels.modify offer.1
      (Channel.trySend capacity · offer.2) }

def sendAll (capacity : ℕ) (delivery : Delivery Item)
    (offers : List (ℕ × Item)) : Delivery Item :=
  offers.foldl (trySend capacity) delivery

/-- What a channel is sent among several offers, in order. -/
def sentTo (channel : ℕ) (offers : List (ℕ × Item)) : List Item :=
  (offers.filter (·.1 == channel)).map (·.2)

theorem registry_sendAll (capacity : ℕ) (delivery : Delivery Item)
    (offers : List (ℕ × Item)) :
    (delivery.sendAll capacity offers).registry = delivery.registry := by
  induction offers generalizing delivery with
  | nil => rfl
  | cons offer rest induction => exact induction (delivery.trySend capacity _)

theorem channel_sendAll (capacity : ℕ) (delivery : Delivery Item)
    (offers : List (ℕ × Item)) (channel : ℕ) :
    (delivery.sendAll capacity offers).channels[channel]? =
      delivery.channels[channel]?.map
        (Channel.sendAll capacity · (sentTo channel offers)) := by
  induction offers generalizing delivery with
  | nil => simp [sendAll, sentTo, Channel.sendAll]
  | cons offer rest induction =>
      change ((delivery.trySend capacity offer).sendAll capacity
        rest).channels[channel]? = _
      rw [induction]
      unfold trySend
      rw [List.getElem?_modify]
      by_cases same : offer.1 = channel
      · subst same
        simp [sentTo, Channel.sendAll, Function.comp_def]
      · simp [sentTo, same]

end Delivery

end Accord
