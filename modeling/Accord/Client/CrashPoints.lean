import Accord.Client.Acceptances
import Accord.Client.DeliveredFlag

/-! Where the process may stop.  What a send or an acceptance has to do is
known only to the running command until the outbox is written, at its end; and
a process that stops in that write leaves no outbox. -/

namespace Accord

open EventRun

structure Errand where
  peerId : String
  kind : RequestKind
  code : CodeText
  deriving DecidableEq

def OutboxEntry.errand (entry : OutboxEntry) : Errand :=
  ⟨entry.peerId, entry.kind, entry.peerCode⟩

namespace Friends

def Holds (errand : Errand) (friends : Friends) : Prop :=
  errand ∈ friends.outbox.map OutboxEntry.errand

def Delivered (errand : Errand) (friends : Friends) : Prop :=
  ⟨errand.kind, errand.code⟩ ∈ friends.deliveries

def Parks (id : String) (friends : Friends) : Prop :=
  id ∈ friends.parked.map (·.id)

def undelivered (friends : Friends) : Friends :=
  { friends with deliveries := [] }

instance (errand : Errand) (friends : Friends) :
    Decidable (friends.Holds errand) :=
  inferInstanceAs (Decidable (_ ∈ _))

instance (errand : Errand) (friends : Friends) :
    Decidable (friends.Delivered errand) :=
  inferInstanceAs (Decidable (_ ∈ _))

instance (id : String) (friends : Friends) : Decidable (friends.Parks id) :=
  inferInstanceAs (Decidable (_ ∈ _))

def RequestSafe (errand : Errand) (state : Friends × FriendTask) : Prop :=
  state.1.Delivered errand ∨ state.1.Holds errand

/-- As long as the row is parked, accepting can be retried. -/
def AcceptanceSafe (errand : Errand) (id : String)
    (state : Friends × FriendTask) : Prop :=
  state.1.Delivered errand ∨ state.1.Holds errand ∨ state.1.Parks id

variable {friends : Friends} {errand : Errand}

private theorem recipient_of_validate {parsed : ContactCode}
    {entry : OutboxEntry}
    (valid : Contacts.validate entry.peerCode = .ok parsed) :
    entry.recipient = parsed.hostUserId := by
  obtain ⟨target, named, same⟩ := targetFromCode_of_validate valid
  unfold OutboxEntry.recipient
  rw [named]
  exact same

private theorem deliver_errand {entry : OutboxEntry}
    (own : entry.errand = errand)
    (friends : Friends) (answer : DeliverAnswer) (delivered : Bool) :
    { (friends.deliver answer entry).2.1 with delivered }.errand =
      errand := by
  have same := congrArg OutboxEntry.errand
    (friends.deliver_fixed answer entry)
  exact Eq.trans same own

private theorem delivered_of_flag {entry : OutboxEntry} {answer : DeliverAnswer}
    (own : entry.errand = errand)
    (flag : (friends.deliver answer entry).2.2 = true) :
    (friends.deliver answer entry).1.Delivered errand := by
  rw [← deliver_errand own friends answer true]
  exact deliver_reported flag

private theorem deliver_parked (friends : Friends) (answer : DeliverAnswer)
    (entry : OutboxEntry) :
    (friends.deliver answer entry).1.parked = friends.parked := by
  obtain ⟨deliveries, own, delivered, same, _⟩ :=
    friends.deliver_spec answer entry
  rw [same]

private theorem holds_deliver {answer : DeliverAnswer} {entry : OutboxEntry} :
    (friends.deliver answer entry).1.Holds errand ↔ friends.Holds errand := by
  unfold Holds
  rw [friends.deliver_outbox]

private theorem parks_deliver {answer : DeliverAnswer} {entry : OutboxEntry}
    {id : String} :
    (friends.deliver answer entry).1.Parks id ↔ friends.Parks id := by
  unfold Parks
  rw [deliver_parked]

private theorem delivered_deliver {entry : OutboxEntry}
    (own : entry.errand = errand) (fresh : friends.deliveries = [])
    (answer : DeliverAnswer) :
    (friends.deliver answer entry).1.Delivered errand ↔
      entry.recipient.isSome ∧ answer ≠ .failed := by
  subst own
  unfold Delivered deliver
  cases entry.recipient with
  | none => simp [fresh]
  | some recipient =>
      cases answer with
      | failed => simp [fresh]
      | unacknowledged => simp [OutboxEntry.errand]
      | acknowledged profile => simp [OutboxEntry.errand]

private theorem holds_replaced {entry : OutboxEntry}
    (own : entry.errand = errand)
    (outbox : List OutboxEntry) :
    errand ∈ (Outbox.replaceRequest entry outbox).2.map
      OutboxEntry.errand := by
  subst own
  exact List.mem_map_of_mem
    (List.mem_append_right _ (List.mem_singleton_self entry))

private theorem holds_queued {entry : OutboxEntry} (own : entry.errand = errand)
    (undelivered : entry.delivered = false) (outbox : List OutboxEntry) :
    errand ∈ (Outbox.queueAcceptance entry outbox).2.map
      OutboxEntry.errand := by
  subst own
  unfold Outbox.queueAcceptance
  rw [undelivered]
  exact List.mem_map_of_mem
    (List.mem_append_right _ (List.mem_singleton_self entry))

/-- A torn write takes from the outbox what it held, any other leaves that or
puts in what the change does. -/
private theorem holds_updateOutbox {file : FileUse String}
    {mutate : List OutboxEntry → Bool × List OutboxEntry}
    (changes : ∀ outbox, (mutate outbox).1 = true) :
    (friends.updateOutbox file mutate).Holds errand ↔
      match file.write with
      | .done => errand ∈
          (mutate (file.read [] friends.outbox)).2.map OutboxEntry.errand
      | .unopened _ => friends.Holds errand
      | .torn _ _ => False := by
  unfold Holds updateOutbox
  rw [FileUse.rewrite_of_changes (changes _)]
  cases file.write with
  | done => exact Iff.rfl
  | unopened cause => exact Iff.rfl
  | torn cause size => exact iff_of_false List.not_mem_nil id

end Friends

namespace FriendTask

open Friends

variable {friends : Friends} {task : FriendTask} {errand : Errand}

private theorem always_done {safe : Friends × FriendTask → Prop}
    {inputs : List FriendInput} :
    Always friendMachine.alone safe (friends, done) inputs ↔
      safe (friends, done) := by
  induction inputs with
  | nil => exact Iff.rfl
  | cons input rest induction =>
      exact ⟨And.left, fun holds => ⟨holds, induction.mpr holds⟩⟩

section Request

private theorem putting_safe_iff {entry : OutboxEntry}
    (own : entry.errand = errand)
    (friends : Friends) (inputs : List FriendInput) :
    Always friendMachine.alone (RequestSafe errand)
        (friends, putting entry) inputs ↔
      (friends.Delivered errand ∨ friends.Holds errand) ∧
        ∀ input ∈ inputs[0]?, input.outboxFile.write.tears = true →
          friends.Delivered errand := by
  cases inputs with
  | nil => simp [Always, RequestSafe]
  | cons input rest =>
      refine and_congr_right fun safe => ?_
      refine always_done.trans ?_
      change friends.Delivered errand ∨
        (friends.updateOutbox _ _).Holds errand ↔ _
      rw [holds_updateOutbox fun _ => rfl]
      simp only [List.getElem?_cons_zero, Option.mem_some_iff, forall_eq']
      cases input.outboxFile.write with
      | done =>
          refine iff_of_true (.inr (holds_replaced own _)) fun never => ?_
          cases never
      | unopened cause =>
          refine iff_of_true safe fun never => ?_
          cases never
      | torn cause size =>
          exact (or_iff_left id).trans ⟨fun reached _ => reached, (· rfl)⟩

/-- The request was in the outbox before, and if the outbox is lost, it has
reached the peer's node. -/
def RequestKept (errand : Errand) (friends : Friends)
    (inputs : List FriendInput) : Prop :=
  friends.Holds errand ∧
    ∀ first ∈ inputs[0]?, ∀ second ∈ inputs[1]?,
      second.outboxFile.write.tears = true → first.answer ≠ .failed

private theorem delivering_safe_iff {entry : OutboxEntry}
    (own : entry.errand = errand) (hosted : entry.recipient.isSome)
    (friends : Friends) (inputs : List FriendInput) :
    Always friendMachine.alone (RequestSafe errand)
        (friends.undelivered, delivering entry) inputs ↔
      RequestKept errand friends inputs := by
  have start : RequestSafe errand (friends.undelivered, delivering entry) ↔
      friends.Holds errand := or_iff_right List.not_mem_nil
  cases inputs with
  | nil => simp [Always, start, RequestKept]
  | cons input rest =>
      refine (and_congr_left' start).trans (and_congr_right fun holds => ?_)
      have same := deliver_errand own friends.undelivered input.answer
      have held : friends.undelivered.Holds errand := holds
      have fresh : friends.undelivered.deliveries = [] := rfl
      have reached := delivered_deliver own fresh input.answer
      refine (putting_safe_iff (same _) _ rest).trans ?_
      simp [holds_deliver, held, reached, hosted]

private theorem send_of_valid {parsed : ContactCode} {code : CodeText}
    (valid : Contacts.validate code = .ok parsed)
    (hosted : parsed.hostUserId.isSome) (myDisplay : String)
    (input : FriendInput) :
    ∃ entry : OutboxEntry,
      send code myDisplay input = delivering entry ∧
        entry.errand =
          ⟨Contacts.toHex parsed.identityPubkey, .request, code⟩ ∧
        entry.recipient.isSome := by
  obtain ⟨target, named, same⟩ := targetFromCode_of_validate valid
  obtain ⟨user, known⟩ := Option.isSome_iff_exists.mp hosted
  unfold send
  simp only [named, same.trans known, Option.isNone_some]
  refine ⟨_, rfl, rfl, ?_⟩
  rw [recipient_of_validate valid]
  exact hosted

end Request

section Acceptance

private theorem queueing_safe_iff {entry : OutboxEntry}
    (own : entry.errand = errand)
    {friends : Friends}
    (reported : entry.delivered = true → friends.Delivered errand)
    (id : String) (inputs : List FriendInput) :
    Always friendMachine.alone (AcceptanceSafe errand id)
        (friends, queueing entry) inputs ↔
      (friends.Delivered errand ∨ friends.Holds errand ∨ friends.Parks id) ∧
        ∀ input ∈ inputs[0]?, input.outboxFile.write.tears = true →
          friends.Delivered errand ∨ friends.Parks id := by
  cases inputs with
  | nil => simp [Always, AcceptanceSafe]
  | cons input rest =>
      refine and_congr_right fun safe => ?_
      refine always_done.trans ?_
      change friends.Delivered errand ∨
        (friends.updateOutbox _ _).Holds errand ∨ friends.Parks id ↔ _
      rw [holds_updateOutbox fun _ => rfl]
      simp only [List.getElem?_cons_zero, Option.mem_some_iff, forall_eq']
      cases input.outboxFile.write with
      | done =>
          refine iff_of_true ?_ fun never => ?_
          · cases flag : entry.delivered with
            | true => exact .inl (reported flag)
            | false => exact .inr (.inl (holds_queued own flag _))
          · cases never
      | unopened cause =>
          refine iff_of_true safe fun never => ?_
          cases never
      | torn cause size =>
          have lost : friends.Delivered errand ∨ False ∨ friends.Parks id ↔
              friends.Delivered errand ∨ friends.Parks id :=
            or_congr_right (or_iff_right not_false)
          exact lost.trans ⟨fun reached _ => reached, (· rfl)⟩

private theorem accepting_safe_iff {parsed : ContactCode} {code : CodeText}
    (valid : Contacts.validate code = .ok parsed)
    (own : errand = ⟨Contacts.toHex parsed.identityPubkey, .accept, code⟩)
    {friends : Friends} (fresh : friends.deliveries = [])
    (id myDisplay : String) (inputs : List FriendInput) :
    Always friendMachine.alone (AcceptanceSafe errand id)
        (friends, accepting code myDisplay) inputs ↔
      (friends.Holds errand ∨ friends.Parks id) ∧
        ∀ first ∈ inputs[0]?, ∀ second ∈ inputs[1]?,
          second.outboxFile.write.tears = true →
            parsed.hostUserId.isSome ∧ first.answer ≠ .failed ∨
              friends.Parks id := by
  have start : AcceptanceSafe errand id (friends, accepting code myDisplay) ↔
      friends.Holds errand ∨ friends.Parks id := by
    refine or_iff_right fun never => ?_
    unfold Delivered at never
    rw [fresh] at never
    exact List.not_mem_nil never
  cases inputs with
  | nil => simp [Always, start]
  | cons input rest =>
      refine (and_congr_left' start).trans (and_congr_right fun kept => ?_)
      obtain ⟨target, named, _⟩ := targetFromCode_of_validate valid
      let entry := newEntry .accept code target parsed.identityPubkey
        myDisplay input.nowMs
      have mine : entry.errand = errand := own.symm
      have same := deliver_errand mine friends input.answer
      have reached := delivered_deliver mine fresh input.answer
      rw [recipient_of_validate valid] at reached
      have turned : friendMachine.alone (friends, accepting code myDisplay)
          input = ((friends.deliver input.answer entry).1,
            queueing { (friends.deliver input.answer entry).2.1 with
              delivered := (friends.deliver input.answer entry).2.2 }) := by
        change accept friends code myDisplay input = _
        simp only [accept, named, entry]
      rw [turned, queueing_safe_iff (same _) (delivered_of_flag mine)]
      simp [holds_deliver, parks_deliver, kept, reached]

/-- The row stays on the home node: it is parked, and its deletion fails. -/
def RowStays (id : String) (friends : Friends) (inputs : List FriendInput) :
    Prop :=
  friends.Parks id ∧ ∀ input ∈ inputs[0]?, input.deleted = false

/-- The acceptance was in the outbox before or its row stays; and if the outbox
is lost, the acceptance has reached the peer's node or its row stays. -/
def AcceptanceKept (parsed : ContactCode) (errand : Errand) (id : String)
    (friends : Friends) (inputs : List FriendInput) : Prop :=
  (friends.Holds errand ∨ RowStays id friends inputs) ∧
    ∀ second ∈ inputs[1]?, ∀ third ∈ inputs[2]?,
      third.outboxFile.write.tears = true →
        parsed.hostUserId.isSome ∧ second.answer ≠ .failed ∨
          RowStays id friends inputs

private theorem parks_deleteParked (deleted : Bool) (id : String) :
    (friends.deleteParked deleted id).Parks id ↔
      friends.Parks id ∧ deleted = false := by
  unfold deleteParked Parks
  cases deleted with
  | false => simp
  | true => simp

private theorem clearing_safe_iff {parsed : ContactCode} {code : CodeText}
    (valid : Contacts.validate code = .ok parsed)
    (own : errand = ⟨Contacts.toHex parsed.identityPubkey, .accept, code⟩)
    (friends : Friends) (id myDisplay : String) (inputs : List FriendInput) :
    Always friendMachine.alone (AcceptanceSafe errand id)
        (friends.undelivered, clearing id code myDisplay) inputs ↔
      AcceptanceKept parsed errand id friends inputs := by
  have start : AcceptanceSafe errand id
      (friends.undelivered, clearing id code myDisplay) ↔
        friends.Holds errand ∨ friends.Parks id :=
    or_iff_right List.not_mem_nil
  cases inputs with
  | nil => simp [Always, start, AcceptanceKept, RowStays]
  | cons input rest =>
      have held : (friends.undelivered.deleteParked input.deleted id).Holds
          errand ↔ friends.Holds errand := by
        unfold Holds
        rw [deleteParked_outbox]
        exact Iff.rfl
      have fresh : (friends.undelivered.deleteParked input.deleted
          id).deliveries = [] := by
        obtain ⟨parked, same⟩ :=
          friends.undelivered.deleteParked_spec input.deleted id
        rw [same]
        rfl
      have parked : (friends.undelivered.deleteParked input.deleted id).Parks
          id ↔ RowStays id friends (input :: rest) := by
        rw [parks_deleteParked]
        simp [RowStays, Parks, undelivered]
      have later := accepting_safe_iff valid own fresh id myDisplay rest
      rw [held, parked] at later
      refine (and_congr start later).trans (and_iff_right_of_imp ?_)
      exact fun kept => kept.1.imp_right And.left

end Acceptance

/-- Wherever a send or an acceptance stops, it is not lost, exactly if it was
in the outbox before, or the row of the acceptance could not be cleared; and if
it was not only in an outbox that the command lost. -/
theorem crash_safe_iff {parsed : ContactCode} {code : CodeText}
    (valid : Contacts.validate code = .ok parsed) (friends : Friends)
    (myDisplay : String) (inputs : List FriendInput) :
    (parsed.hostUserId.isSome → ∀ input,
      (Always friendMachine.alone
          (RequestSafe ⟨Contacts.toHex parsed.identityPubkey, .request, code⟩)
          (friends.undelivered, send code myDisplay input) inputs ↔
        RequestKept ⟨Contacts.toHex parsed.identityPubkey, .request, code⟩
          friends inputs)) ∧
      ∀ id,
        (Always friendMachine.alone
            (AcceptanceSafe
              ⟨Contacts.toHex parsed.identityPubkey, .accept, code⟩ id)
            (friends.undelivered, clearing id code myDisplay) inputs ↔
          AcceptanceKept parsed
            ⟨Contacts.toHex parsed.identityPubkey, .accept, code⟩ id
            friends inputs) := by
  constructor
  · intro hosted input
    obtain ⟨entry, sent, own, reachable⟩ :=
      send_of_valid valid hosted myDisplay input
    rw [sent]
    exact delivering_safe_iff own reachable friends inputs
  · intro id
    exact clearing_safe_iff valid rfl friends id myDisplay inputs

/-- The request is sent once more, and the process stops in the write of the
outbox, with the request at its node; and the row cannot be cleared. -/
theorem resent_crash_safe :
    Always friendMachine.alone (RequestSafe ⟨peerKey, .request, peerCode⟩)
        (undelivered { outbox := [peerRequest] }, send peerCode "Ann" {})
        [{ answer := .unacknowledged },
          { outboxFile := { write := .torn "stopped" 9 } }] ∧
      Always friendMachine.alone
        (AcceptanceSafe ⟨peerKey, .accept, peerCode⟩ "row")
        (undelivered { parked := [⟨"row", peerCode, "request"⟩] },
          clearing "row" peerCode "Ann")
        [{ deleted := false }, {},
          { outboxFile := { write := .torn "stopped" 9 } }] := by
  have valid : Contacts.validate peerCode =
      .ok {
        identityPubkey := List.replicate 32 7
        addresses := ["https://peer:50051"]
        hostUserId := some "peer" } := rfl
  have held : Holds ⟨peerKey, .request, peerCode⟩
      { outbox := [peerRequest] } := List.mem_singleton.mpr rfl
  have parks : Parks "row" { parked := [⟨"row", peerCode, "request"⟩] } :=
    List.mem_singleton.mpr rfl
  constructor
  · have safe := crash_safe_iff valid { outbox := [peerRequest] } "Ann"
      [{ answer := .unacknowledged },
        { outboxFile := { write := .torn "stopped" 9 } }]
    exact (safe.1 rfl {}).mpr ⟨held, by simp⟩
  · have safe := crash_safe_iff valid
      { parked := [⟨"row", peerCode, "request"⟩] } "Ann"
      [{ deleted := false }, {},
        { outboxFile := { write := .torn "stopped" 9 } }]
    have stays : RowStays "row" { parked := [⟨"row", peerCode, "request"⟩] }
        [{ deleted := false }, {},
          { outboxFile := { write := .torn "stopped" 9 } }] :=
      ⟨parks, by simp⟩
    exact (safe.2 "row").mpr ⟨.inr stays, fun _ _ _ _ _ => .inr stays⟩

/-- The process stops during the first delivery, or in the write of the outbox
after another one that fails. -/
theorem crash_loses :
    ¬Always friendMachine.alone (RequestSafe ⟨peerKey, .request, peerCode⟩)
        (undelivered {}, send peerCode "Ann" {}) [] ∧
      ¬Always friendMachine.alone
        (RequestSafe ⟨peerKey, .request, peerCode⟩)
        (undelivered { outbox := [peerRequest] }, send peerCode "Ann" {})
        [{}, { outboxFile := { write := .torn "stopped" 0 } }] ∧
      ¬Always friendMachine.alone
        (AcceptanceSafe ⟨peerKey, .accept, peerCode⟩ "row")
        (undelivered { parked := [⟨"row", peerCode, "request"⟩] },
          clearing "row" peerCode "Ann")
        [{}] := by
  refine ⟨fun always => ?_, fun always => ?_, fun always => ?_⟩
  · exact always.head.elim List.not_mem_nil List.not_mem_nil
  · exact always.last.elim List.not_mem_nil List.not_mem_nil
  · obtain never | never | never := always.last
    · exact List.not_mem_nil never
    · exact List.not_mem_nil never
    · revert never
      decide +kernel

end FriendTask

end Accord
