import Accord.Client.Withdrawal

/-! What a sync makes of the acceptances on the home node.  Anyone who can reach
the node can park a row there, with any code in it. -/

namespace Accord

open EventRun

namespace FriendTask

def OfSync : FriendTask → Prop
  | syncing _ | retrying .. | consuming .. | merging .. | done => True
  | _ => False

end FriendTask

/-- A contact is reached as before, unless a request to them was pending. -/
def Friends.Warranted (before after : Friends) : Prop :=
  ∀ key reach, Contacts.reachOf after.contacts key = some reach →
    Contacts.reachOf before.contacts key = some reach ∨
      Outbox.HasRequest before.outbox (Contacts.toHex key)

/-- If the turn stores the contact of an acceptance, a request to them was
pending, or they were listed just like that. -/
def Friends.Expects (before : Friends) (state : Friends × FriendTask)
    (input : FriendInput) : Prop :=
  ∀ row rows policy deliveredNow accepted parsed,
    state.2 = .consuming (row :: rows) policy deliveredNow accepted →
      row.kind = "accept" →
        Contacts.validate row.contactCode = .ok parsed →
          input.contactsFile.write = .done →
            Outbox.HasRequest before.outbox
                (Contacts.toHex parsed.identityPubkey) ∨
              Contacts.reachOf before.contacts parsed.identityPubkey =
                some parsed.reach

namespace Friends

variable (friends : Friends)

@[simp] theorem deliver_contacts (answer : DeliverAnswer)
    (entry : OutboxEntry) :
    (friends.deliver answer entry).1.contacts = friends.contacts := by
  obtain ⟨deliveries, own, delivered, same, _⟩ :=
    friends.deliver_spec answer entry
  rw [same]

@[simp] theorem mergeSync_contacts (file : FileUse String)
    (deliveredNow : List OutboxEntry) (acceptedPeers : List String) :
    (friends.mergeSync file deliveredNow acceptedPeers).contacts =
      friends.contacts := by
  unfold mergeSync
  dsimp only
  split <;> rfl

end Friends

namespace FriendTask

/-- Only the rows that it consumes make a sync change the contacts. -/
private theorem sync_advance {friends : Friends} {task : FriendTask}
    (ofSync : task.OfSync)
    (unconsuming : ∀ row rows policy deliveredNow accepted,
      task ≠ consuming (row :: rows) policy deliveredNow accepted)
    (input : FriendInput) :
    (advance friends task input).1.contacts = friends.contacts ∧
      (advance friends task input).2.OfSync := by
  cases task with
  | syncing | done => exact ⟨rfl, trivial⟩
  | merging => exact ⟨friends.mergeSync_contacts _ _ _, trivial⟩
  | consuming rows policy deliveredNow accepted =>
      cases rows with
      | nil => exact ⟨rfl, trivial⟩
      | cons row rest =>
          exact absurd rfl (unconsuming row rest policy deliveredNow accepted)
  | retrying todo deliveredNow myDisplay =>
      cases todo with
      | nil =>
          simp only [advance]
          obtain same | ⟨rows, same⟩ := list_cases friends input deliveredNow
          · rw [same]
            exact ⟨rfl, trivial⟩
          · rw [same]
            exact ⟨rfl, trivial⟩
      | cons entry rest =>
          simp only [advance]
          obtain same | same := retry_cases friends input entry rest
            deliveredNow myDisplay
          · rw [same]
            exact ⟨rfl, trivial⟩
          · rw [same]
            exact ⟨friends.deliver_contacts _ _, trivial⟩
  | _ => exact ofSync.elim

end FriendTask

namespace Friends

variable {before after : Friends}

theorem Warranted.refl (friends : Friends) : Warranted friends friends :=
  fun _ _ listed => .inl listed

private theorem Warranted.forgets (before after : Friends) :
    Warranted before { after with contacts := [] } :=
  fun _ _ never => absurd never nofun

theorem Warranted.upsert {contacts stored : List StoredContact}
    {parsed : ContactCode}
    (warranted : Warranted before { after with contacts := stored })
    (same : contacts = Contacts.upsert parsed stored) :
    Warranted before { after with contacts } ↔
      (Outbox.HasRequest before.outbox
          (Contacts.toHex parsed.identityPubkey) ∨
        Contacts.reachOf before.contacts parsed.identityPubkey =
          some parsed.reach) := by
  subst same
  constructor
  · intro stays
    refine (stays parsed.identityPubkey parsed.reach ?_).symm
    rw [Contacts.reachOf_upsert, if_pos rfl]
  · intro expected key reach listed
    rw [Contacts.reachOf_upsert] at listed
    split at listed
    · next own =>
      cases listed
      rw [← own]
      exact expected.symm
    · exact warranted key reach listed

structure Syncs (before : Friends) (state : Friends × FriendTask) :
    Prop where
  warranted : Warranted before state.1
  ofSync : state.2.OfSync

private theorem Warranted.of_contacts {other : Friends}
    (same : other.contacts = after.contacts) :
    Warranted before other ↔ Warranted before after := by
  unfold Warranted
  rw [same]

variable {state : Friends × FriendTask} {input : FriendInput}

private theorem consume_warranted_iff {row : FriendRequestEntry}
    {rows : List FriendRequestEntry} {policy : FriendRequestPolicy}
    {deliveredNow : List OutboxEntry} {accepted : List Acceptance}
    (warranted : Warranted before after) :
    Warranted before (FriendTask.consume after row rows policy deliveredNow
        accepted input).1 ↔
      Expects before
        (after, .consuming (row :: rows) policy deliveredNow accepted)
        input := by
  obtain ⟨contacts, parked, acceptance, same, cases⟩ :=
    after.consumeRow_spec input.contactsFile input.deleted policy row
  change Warranted before (after.consumeRow _ _ _ _).1 ↔ _
  rw [same]
  obtain ⟨kept, _, unstored⟩ | ⟨parsed, accept, valid, stored, upserted, _⟩ :=
    cases
  · have stays : Warranted before { after with contacts, parked } := by
      rcases kept with kept | gone
      · exact (Warranted.of_contacts kept).mpr warranted
      · exact (Warranted.of_contacts gone).mpr (.forgets before after)
    refine ⟨fun _ => ?_, fun _ => stays⟩
    intro other others _ _ _ parsed taken accept valid stored
    cases taken
    exact absurd stored (unstored parsed accept valid)
  · have loaded : Warranted before { after with
        contacts := input.contactsFile.read [] after.contacts } :=
      input.contactsFile.read_keeps
        (fun contacts => Warranted before { after with contacts })
        (.forgets before after) warranted
    refine ((Warranted.of_contacts rfl).trans
      (loaded.upsert upserted)).trans ?_
    constructor
    · intro expected other others _ _ _ code taken _ again _
      cases taken
      cases valid.symm.trans again
      exact expected
    · intro expects
      exact expects row rows policy deliveredNow accepted parsed rfl accept
        valid stored

theorem Syncs.step (syncs : Syncs before state) :
    (Warranted before (friendMachine.alone state input).1 ↔
      Expects before state input) ∧
    (friendMachine.alone state input).2.OfSync := by
  obtain ⟨friends, task⟩ := state
  by_cases consuming : ∃ row rows policy deliveredNow accepted,
      task = .consuming (row :: rows) policy deliveredNow accepted
  · obtain ⟨row, rows, policy, deliveredNow, accepted, rfl⟩ := consuming
    exact ⟨consume_warranted_iff syncs.warranted, trivial⟩
  · obtain ⟨same, next⟩ :
        (FriendTask.advance friends task input).1.contacts =
          friends.contacts ∧
        (FriendTask.advance friends task input).2.OfSync :=
      FriendTask.sync_advance syncs.ofSync
        (fun row rows policy deliveredNow accepted taken =>
          consuming ⟨row, rows, policy, deliveredNow, accepted, taken⟩) input
    refine ⟨⟨fun _ => ?_, fun _ => ?_⟩, next⟩
    · intro row rows policy deliveredNow accepted parsed taken
      exact absurd ⟨row, rows, policy, deliveredNow, accepted, taken⟩ consuming
    · exact (Warranted.of_contacts same).mpr syncs.warranted

/-- A sync changes no contact on the word of strangers exactly if it is told of
no acceptance, or of none but those that change nothing, beyond the requests
that are pending. -/
theorem sync_warranted_iff (friends : Friends) (myDisplay : String)
    (inputs : List FriendInput) :
    Always friendMachine.alone (fun state => Warranted friends state.1)
        (friends, .syncing myDisplay) inputs ↔
      Each friendMachine.alone (Expects friends)
        (friends, .syncing myDisplay) inputs := by
  have syncs : Syncs friends (friends, .syncing myDisplay) :=
    ⟨.refl friends, trivial⟩
  have warranted : ∀ state, Syncs friends state → Warranted friends state.1 :=
    fun _ holds => holds.warranted
  refine always_iff_each_of warranted ?_ ?_ syncs inputs
  · intro state input holds expects
    exact ⟨holds.step.1.mpr expects, holds.step.2⟩
  · intro state input holds unexpected stays
    exact unexpected (holds.step.1.mp stays)

end Friends

def peerContact : StoredContact where
  pubkey := List.replicate 32 7
  name := "Unknown"
  addresses := ["https://peer:50051"]
  cert := none
  hostUserId := some "peer"
  verified := true

theorem forged_acceptance_readdresses :
    ¬Always friendMachine.alone
      (fun state => Friends.Warranted { contacts := [peerContact] } state.1)
      ({ contacts := [peerContact] }, .syncing "Ann")
      [{}, { parked := some [⟨"row", movedCode, "accept"⟩] }, {}] := by
  intro always
  have readdressed := always.last (List.replicate 32 7)
    ⟨["https://moved:50051"], none, some "moved"⟩ (by decide +kernel)
  revert readdressed
  decide +kernel

end Accord
