import Accord.Server.Store.Model

/-! The offline inbox of a device. -/

namespace Accord

namespace Store

def enqueueInbox (device : Uuid) (kind : InboxKind) (group : Uuid)
    (payload : List UInt8) : Effect Store ServerError Unit := do
  Effect.check (fun store => store.referencesHold (store.hasDevice device))
    violation
  Effect.update fun store =>
    { store with inbox := store.inbox ++ [⟨device, kind, group, payload⟩] }

/-- One `DELETE … RETURNING`: the rows of the device, and the store without
them. -/
def drainInbox (store : Store) (device : Uuid) : List InboxRow × Store :=
  (store.inbox.filter (·.deviceId == device),
    { store with inbox := store.inbox.filter (·.deviceId != device) })

theorem enqueueInbox_of_device {store : Store} {device : Uuid}
    (present : store.hasDevice device = true) (kind : InboxKind)
    (group : Uuid) (payload : List UInt8) :
    (enqueueInbox device kind group payload store).2 =
      { store with
        inbox := store.inbox ++ [⟨device, kind, group, payload⟩] } := by
  have accepted : Effect.check
      (fun store : Store => store.referencesHold (store.hasDevice device))
      violation store = (.ok (), store) := by
    apply Effect.check_of_true
    unfold referencesHold
    rw [present, Bool.or_true]
  unfold enqueueInbox
  rw [Effect.bind_of_ok accepted]
  rfl

theorem drainInbox_deletes (store : Store) (device : Uuid) :
    ∀ row ∈ (store.drainInbox device).2.inbox, row.deviceId ≠ device := by
  intro row member
  simpa using (List.mem_filter.mp member).2

def Mailed (before after : Store) : Prop :=
  after = { before with inbox := after.inbox }

theorem Mailed.refl (store : Store) : store.Mailed store := rfl

theorem keeps_mailed_enqueueInbox {start : Store} (device : Uuid)
    (kind : InboxKind) (group : Uuid) (payload : Bytes) :
    (enqueueInbox device kind group payload).Keeps start.Mailed := by
  refine (Effect.readOnly_check _ _).keeps.bind fun _ => ?_
  intro store mailed
  exact congrArg (fun before : Store =>
    { before with
      inbox := store.inbox ++
        [({ deviceId := device, kind, groupId := group, payload } :
          InboxRow)] }) mailed

end Store

end Accord
