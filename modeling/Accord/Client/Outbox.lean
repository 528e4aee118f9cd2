import Accord.Client.Friends

/-! What becomes of the outbox.  Every turn that touches it replaces the entry
of one peer and kind, withdraws it, or merges what a sync has delivered. -/

namespace Accord

theorem targetFromCode_of_validate {code : CodeText} {parsed : ContactCode}
    (valid : Contacts.validate code = .ok parsed) :
    ∃ target, targetFromCode code = .ok (target, parsed.identityPubkey) ∧
      target.hostUserId = parsed.hostUserId := by
  unfold targetFromCode
  rw [valid]
  exact ⟨_, rfl, rfl⟩

namespace OutboxEntry

/-- The entry without what a merge may change of it. -/
def fixed (entry : OutboxEntry) : OutboxEntry :=
  { entry with delivered := false, peerUsername := none, peerDisplay := none }

end OutboxEntry

namespace Outbox

open OutboxEntry

variable (deliveredNow : List OutboxEntry) {outbox : List OutboxEntry}

private theorem markFirst_fixed (done : OutboxEntry)
    (outbox : List OutboxEntry) :
    (markFirst done outbox).map fixed = outbox.map fixed := by
  induction outbox with
  | nil => rfl
  | cons entry rest induction =>
      unfold markFirst
      by_cases own : entry.key = done.key
      · rw [if_pos own]
        rfl
      · rw [if_neg own, List.map_cons, induction, List.map_cons]

private theorem markAll_fixed (outbox : List OutboxEntry) :
    (markAll deliveredNow outbox).map fixed = outbox.map fixed := by
  induction deliveredNow generalizing outbox with
  | nil => rfl
  | cons done rest induction =>
      change (markAll rest (markFirst done outbox)).map fixed = _
      rw [induction, markFirst_fixed]

private theorem markAll_map {Field : Type} (field : OutboxEntry → Field)
    (kept : ∀ entry, field entry.fixed = field entry)
    (outbox : List OutboxEntry) :
    (markAll deliveredNow outbox).map field = outbox.map field := by
  have through : ∀ entries : List OutboxEntry,
      entries.map field = (entries.map fixed).map field := by
    intro entries
    rw [List.map_map]
    exact List.map_congr_left fun entry _ => (kept entry).symm
  rw [through, markAll_fixed, ← through]

private theorem markAll_keys (outbox : List OutboxEntry) :
    (markAll deliveredNow outbox).map key = outbox.map key :=
  markAll_map deliveredNow key (fun _ => rfl) outbox

theorem mem_markings {deliveredNow outbox : List OutboxEntry}
    {marking : Marking} :
    marking ∈ markings deliveredNow outbox ↔
      marking.done ∈ deliveredNow ∧
        outbox.find? (fun entry => entry.key = marking.done.key) =
          some marking.entry := by
  unfold markings
  rw [List.mem_filterMap]
  constructor
  · rintro ⟨done, member, made⟩
    obtain ⟨entry, found, rfl⟩ := Option.map_eq_some_iff.mp made
    exact ⟨member, found⟩
  · rintro ⟨member, found⟩
    exact ⟨marking.done, member, by rw [found]; rfl⟩

private theorem markFirst_of_absent {done : OutboxEntry}
    (absent : outbox.find? (fun entry => entry.key = done.key) = none) :
    markFirst done outbox = outbox := by
  induction outbox with
  | nil => rfl
  | cons entry rest induction =>
      rw [List.find?_cons] at absent
      by_cases own : entry.key = done.key
      · simp [own] at absent
      · simp only [own, decide_false] at absent
        unfold markFirst
        rw [if_neg own, induction absent]

theorem markAll_of_no_markings
    (none : markings deliveredNow outbox = []) :
    markAll deliveredNow outbox = outbox := by
  induction deliveredNow with
  | nil => rfl
  | cons done rest induction =>
      unfold markings at none
      rw [List.filterMap_cons] at none
      cases found : outbox.find? (fun entry => entry.key = done.key) with
      | some entry =>
          rw [found] at none
          cases none
      | none =>
          rw [found] at none
          change markAll rest (markFirst done outbox) = outbox
          rw [markFirst_of_absent found]
          exact induction none

theorem without_keys (peerId : String) (kind : RequestKind)
    (outbox : List OutboxEntry) :
    (without peerId kind outbox).map key =
      (outbox.map key).filter (· != (peerId, kind)) := by
  unfold without
  rw [List.filter_map]
  rfl

theorem merge_keys_sublist (acceptedPeers : List String)
    (outbox : List OutboxEntry) :
    ((merge deliveredNow acceptedPeers outbox).map key).Sublist
      (outbox.map key) := by
  rw [← markAll_keys deliveredNow outbox]
  exact List.filter_sublist.map key

@[simp] theorem mergeSync_nil (acceptedPeers : List String) :
    (mergeSync deliveredNow acceptedPeers []).1 = false := by
  have unmarked : markAll deliveredNow [] = [] := by
    simpa using markAll_keys deliveredNow []
  have none : markings deliveredNow [] = [] :=
    List.filterMap_eq_nil_iff.mpr fun _ _ => rfl
  unfold mergeSync merge
  rw [unmarked, none]
  rfl

theorem mergeSync_unchanged {deliveredNow : List OutboxEntry}
    {acceptedPeers : List String}
    (unchanged : (mergeSync deliveredNow acceptedPeers outbox).1 = false) :
    (mergeSync deliveredNow acceptedPeers outbox).2 = outbox := by
  obtain ⟨unmarked, kept⟩ := Bool.or_eq_false_iff.mp unchanged
  have none : markings deliveredNow outbox = [] := by simpa using unmarked
  have whole : (merge deliveredNow acceptedPeers outbox).Sublist outbox := by
    unfold merge
    rw [markAll_of_no_markings deliveredNow none]
    exact List.filter_sublist
  exact whole.eq_of_length (bne_eq_false_iff_eq.mp kept)

end Outbox

namespace Friends

variable (friends : Friends)

theorem deliver_spec (answer : DeliverAnswer) (entry : OutboxEntry) :
    ∃ deliveries own delivered,
      friends.deliver answer entry =
        ({ friends with deliveries }, own, delivered) ∧
      friends.deliveries ⊆ deliveries ∧ own.fixed = entry.fixed ∧
      (delivered = true → ⟨entry.kind, entry.peerCode⟩ ∈ deliveries) := by
  unfold deliver
  cases entry.recipient with
  | none => exact ⟨_, _, _, rfl, List.Subset.refl _, rfl, nofun⟩
  | some recipient =>
      have sent : friends.deliveries ⊆
          friends.deliveries ++ [⟨entry.kind, entry.peerCode⟩] :=
        List.subset_append_left _ _
      cases answer with
      | failed => exact ⟨_, _, _, rfl, List.Subset.refl _, rfl, nofun⟩
      | unacknowledged => exact ⟨_, _, _, rfl, sent, rfl, nofun⟩
      | acknowledged profile =>
          have fixed : (entry.withProfile profile).fixed = entry.fixed := by
            cases profile <;> rfl
          exact ⟨_, _, _, rfl, sent, fixed,
            fun _ => List.mem_append_right _ (List.mem_singleton_self _)⟩

theorem deleteParked_spec (deleted : Bool) (id : String) :
    ∃ parked, friends.deleteParked deleted id = { friends with parked } := by
  unfold deleteParked
  split
  · exact ⟨_, rfl⟩
  · exact ⟨_, rfl⟩

/-- A row is consumed if it is an acceptance with a valid code and the contact
list can be stored. -/
theorem consumeRow_spec (file : FileUse String) (deleted : Bool)
    (policy : FriendRequestPolicy) (row : FriendRequestEntry) :
    ∃ contacts parked acceptance,
      friends.consumeRow file deleted policy row =
        ({ friends with contacts, parked }, acceptance) ∧
      (((contacts = friends.contacts ∨ contacts = []) ∧ acceptance = none ∧
          ∀ parsed, row.kind = "accept" →
            Contacts.validate row.contactCode = .ok parsed →
              file.write ≠ .done) ∨
        ∃ parsed, row.kind = "accept" ∧
          Contacts.validate row.contactCode = .ok parsed ∧
          file.write = .done ∧
          contacts = Contacts.upsert parsed (file.read [] friends.contacts) ∧
          acceptance =
            some ⟨row, Contacts.toHex parsed.identityPubkey⟩) := by
  unfold consumeRow targetFromCode
  obtain ⟨parked, cleared⟩ := friends.deleteParked_spec deleted row.id
  cases valid : Contacts.validate row.contactCode with
  | error cause =>
      exact ⟨_, parked, none, congrArg (·, none) cleared,
        .inl ⟨.inl rfl, rfl, fun _ _ => nofun⟩⟩
  | ok parsed =>
      simp only [bind, Except.bind, pure, Except.pure]
      by_cases accept : row.kind = "accept"
      · rw [if_pos accept, Contacts.addContact_of_ok valid, Contacts.save]
        cases file.write with
        | unopened cause =>
            exact ⟨_, _, none, rfl, .inl ⟨.inl rfl, rfl, fun _ _ _ => nofun⟩⟩
        | torn cause size =>
            exact ⟨_, _, none, rfl, .inl ⟨.inr rfl, rfl, fun _ _ _ => nofun⟩⟩
        | done =>
            obtain ⟨parked, cleared⟩ := deleteParked_spec
              { friends with
                contacts :=
                  Contacts.upsert parsed (file.read [] friends.contacts) }
              deleted row.id
            exact ⟨_, parked, _, congrArg (·, _) cleared,
              .inr ⟨parsed, accept, rfl, rfl, rfl, rfl⟩⟩
      · have unaccepted : ∀ other, row.kind = "accept" →
            (.ok parsed : Except String ContactCode) = .ok other →
              file.write ≠ .done :=
          fun _ kind => absurd kind accept
        rw [if_neg accept]
        split
        · exact ⟨_, parked, none, congrArg (·, none) cleared,
            .inl ⟨.inl rfl, rfl, unaccepted⟩⟩
        · exact ⟨_, _, none, rfl, .inl ⟨.inl rfl, rfl, unaccepted⟩⟩

@[simp] theorem deliver_outbox (answer : DeliverAnswer)
    (entry : OutboxEntry) :
    (friends.deliver answer entry).1.outbox = friends.outbox := by
  obtain ⟨deliveries, own, delivered, same, _⟩ :=
    friends.deliver_spec answer entry
  rw [same]

@[simp] theorem deleteParked_outbox (deleted : Bool) (id : String) :
    (friends.deleteParked deleted id).outbox = friends.outbox := by
  obtain ⟨parked, same⟩ := friends.deleteParked_spec deleted id
  rw [same]

@[simp] theorem consumeRow_outbox (file : FileUse String)
    (deleted : Bool) (policy : FriendRequestPolicy)
    (row : FriendRequestEntry) :
    (friends.consumeRow file deleted policy row).1.outbox =
      friends.outbox := by
  obtain ⟨contacts, parked, acceptance, same, _⟩ :=
    friends.consumeRow_spec file deleted policy row
  rw [same]

theorem mergeSync_outbox (file : FileUse String)
    (deliveredNow : List OutboxEntry) (acceptedPeers : List String) :
    (friends.mergeSync file deliveredNow acceptedPeers).outbox =
      file.rewrite [] (Outbox.mergeSync deliveredNow acceptedPeers)
        friends.outbox := by
  unfold mergeSync
  dsimp only
  split <;> rfl

end Friends

namespace FriendTask

def revision : FriendTask → List OutboxEntry → Bool × List OutboxEntry
  | putting entry | puttingBack entry => Outbox.replaceRequest entry
  | queueing entry => Outbox.queueAcceptance entry
  | cancelling peerId => Outbox.withdraw peerId
  | merging deliveredNow accepted =>
      Outbox.mergeSync deliveredNow (accepted.map (·.peerId))
  | _ => fun outbox => (false, outbox)

/-! What the longer turns go on with. -/

section Turns

variable (friends : Friends) (input : FriendInput)

theorem send_cases (code : CodeText) (myDisplay : String) :
    send code myDisplay input = done ∨
      ∃ target identity, targetFromCode code = .ok (target, identity) ∧
        target.hostUserId.isNone = false ∧
        send code myDisplay input = delivering
          (newEntry .request code target identity myDisplay input.nowMs) := by
  unfold send
  cases targetFromCode code with
  | error cause => exact .inl rfl
  | ok found =>
      dsimp only
      cases hosted : found.1.hostUserId.isNone with
      | true => exact .inl rfl
      | false => exact .inr ⟨found.1, found.2, rfl, hosted, rfl⟩

theorem look_cases (outbox : List OutboxEntry)
    (peerId myDisplay : String) :
    look outbox peerId myDisplay = done ∨
      ∃ entry ∈ outbox, entry.key = (peerId, .request) ∧
        look outbox peerId myDisplay =
          redelivering (entry.withDisplay myDisplay) := by
  unfold look
  cases found : outbox.find?
      fun entry => entry.key = (peerId, .request) with
  | none => exact .inl rfl
  | some entry =>
      exact .inr ⟨entry, List.mem_of_find?_eq_some found,
        by simpa using List.find?_some found, rfl⟩

theorem retry_cases (entry : OutboxEntry)
    (todo deliveredNow : List OutboxEntry) (myDisplay : String) :
    retry friends entry todo deliveredNow myDisplay input =
        (friends, retrying todo deliveredNow myDisplay) ∨
      retry friends entry todo deliveredNow myDisplay input =
        let attempt :=
          friends.deliver input.answer (entry.withDisplay myDisplay)
        (attempt.1, retrying todo
          (if attempt.2.2 then
            deliveredNow ++ [{ attempt.2.1 with delivered := true }]
          else deliveredNow) myDisplay) := by
  unfold retry
  split
  · exact .inl rfl
  · exact .inr rfl

theorem list_cases (deliveredNow : List OutboxEntry) :
    list friends deliveredNow input = (friends, done) ∨
      ∃ rows, list friends deliveredNow input =
        ({ friends with parked := rows },
          consuming rows input.policy deliveredNow []) := by
  unfold list
  split
  · cases input.parked with
    | none => exact .inl rfl
    | some rows => exact .inr ⟨rows, rfl⟩
  · exact .inl rfl

theorem respond_cases (id : String) (code : CodeText) (accept : Bool)
    (myDisplay : String) :
    ∃ contacts next,
      respond friends id code accept myDisplay input =
        ({ friends with contacts }, next) ∧
      (next = done ∨ next = declining id ∨
        next = clearing id code myDisplay) := by
  unfold respond
  split
  · exact ⟨friends.contacts, done, rfl, .inl rfl⟩
  · split
    · exact ⟨friends.contacts, declining id, rfl, .inr (.inl rfl)⟩
    · rcases Contacts.addContact input.contactsFile code friends.contacts with
        ⟨result, contacts⟩
      cases result with
      | ok _ => exact ⟨contacts, _, rfl, .inr (.inr rfl)⟩
      | error cause => exact ⟨contacts, done, rfl, .inl rfl⟩

theorem accept_cases (code : CodeText) (myDisplay : String) :
    accept friends code myDisplay input = (friends, done) ∨
      ∃ target identity, targetFromCode code = .ok (target, identity) ∧
        accept friends code myDisplay input =
          let attempt := friends.deliver input.answer
            (newEntry .accept code target identity myDisplay input.nowMs)
          (attempt.1,
            queueing { attempt.2.1 with delivered := attempt.2.2 }) := by
  unfold accept
  cases targetFromCode code with
  | error cause => exact .inl rfl
  | ok found => exact .inr ⟨found.1, found.2, rfl, rfl⟩

end Turns

theorem advance_outbox (friends : Friends) (task : FriendTask)
    (input : FriendInput) :
    (advance friends task input).1.outbox =
      input.outboxFile.rewrite [] task.revision friends.outbox := by
  cases task with
  | putting | puttingBack | queueing | cancelling => rfl
  | merging deliveredNow accepted => exact friends.mergeSync_outbox _ _ _
  | delivering entry => exact friends.deliver_outbox _ _
  | redelivering entry => exact friends.deliver_outbox _ _
  | declining id => exact friends.deleteParked_outbox _ _
  | clearing id code myDisplay => exact friends.deleteParked_outbox _ _
  | accepting code myDisplay =>
      simp only [advance, revision, FileUse.rewrite_unchanged]
      obtain same | ⟨target, identity, _, same⟩ :=
        accept_cases friends input code myDisplay
      · rw [same]
      · rw [same]
        exact friends.deliver_outbox _ _
  | responding id code accept myDisplay =>
      simp only [advance, revision, FileUse.rewrite_unchanged]
      obtain ⟨contacts, next, same, _⟩ :=
        respond_cases friends input id code accept myDisplay
      rw [same]
  | retrying todo deliveredNow myDisplay =>
      simp only [revision, FileUse.rewrite_unchanged]
      cases todo with
      | nil =>
          simp only [advance]
          obtain same | ⟨rows, same⟩ :=
            list_cases friends input deliveredNow
          · rw [same]
          · rw [same]
      | cons entry rest =>
          simp only [advance]
          obtain same | same := retry_cases friends input entry rest
            deliveredNow myDisplay
          · rw [same]
          · rw [same]
            exact friends.deliver_outbox _ _
  | consuming rows policy deliveredNow accepted =>
      cases rows with
      | nil => rfl
      | cons row rest => exact friends.consumeRow_outbox _ _ _ _
  | sending | looking | syncing | done => rfl

end FriendTask

end Accord
