import Accord.Server.Messaging.Routing

/-! Every copy of a message is accounted for: a recipient has received it,
finds it in the mailbox, or is still to be dealt with by the send. -/

namespace Accord

namespace SendPhase

def devices : SendPhase → List Uuid
  | .mailing _ devices => devices
  | .queueing _ device rest => device :: rest
  | _ => []

/-- How many copies there are of the message for a recipient.  One that is
still to be checked has a copy exactly if it is connected. -/
def expected (connected : Bool) (device : Uuid) : SendPhase → ℕ
  | .storing | .publishing _ | .failed => 0
  | .listing _ => connected.toNat
  | .mailing _ devices =>
      if device ∈ devices then connected.toNat else 1
  | .queueing _ current rest =>
      if device = current then 0
      else if device ∈ rest then connected.toNat else 1
  | .done _ => 1

private theorem expected_le_one (connected : Bool) (device : Uuid)
    (phase : SendPhase) : phase.expected connected device ≤ 1 := by
  have atMost : connected.toNat ≤ 1 := Bool.toNat_le connected
  cases phase with
  | mailing row devices =>
      simp only [expected]
      split
      · exact atMost
      · exact le_rfl
  | queueing row current rest =>
      simp only [expected]
      split
      · exact Nat.zero_le 1
      · split
        · exact atMost
        · exact le_rfl
  | listing row => exact atMost
  | storing | publishing | failed => exact Nat.zero_le 1
  | done => exact le_rfl

private theorem expected_congr {device : Uuid} {phase : SendPhase}
    (settled : phase.awaits device = false) (before after : Bool) :
    phase.expected before device = phase.expected after device := by
  cases phase with
  | mailing row devices =>
      have absent : device ∉ devices := by simpa [awaits] using settled
      simp [expected, absent]
  | queueing row current rest =>
      have absent : device ∉ rest := by simpa [awaits] using settled
      simp [expected, absent]
  | listing row => cases settled
  | storing | publishing | failed | done => rfl

end SendPhase

namespace Mailroom

variable {codec : InboxCodec} {mail : Mailroom}

def queuedCount (codec : InboxCodec) (store : Store) (device : Uuid)
    (message : ServerMessage) : ℕ :=
  store.inbox.countP fun row => row.deviceId == device &&
    MessagingSvc.inboxMessage codec.decode row == some message

def copies (codec : InboxCodec) (mail : Mailroom) (device : Uuid)
    (message : ServerMessage) : ℕ :=
  mail.receivedCount device message +
    queuedCount codec mail.store device message

/-- Nothing waits for a device with an open stream. -/
def Emptied (mail : Mailroom) : Prop :=
  ∀ device, mail.Reads device →
    ∀ row ∈ mail.store.inbox, row.deviceId ≠ device

/-- Every send has a number of its own, and the devices it has still to deal
with are different devices of the group. -/
structure Numbered (mail : Mailroom) : Prop where
  small : mail.store.lastSeq ≤ Store.i64Max
  stored : ∀ (index : ℕ) (task : SendTask) (row : PrivateMessageRow),
    mail.sends[index]? = some task → task.phase.row = some row →
    row.seq ≤ mail.store.lastSeq ∧ row.groupId = task.send.groupId
  distinct : ∀ (first second : ℕ) (one other : SendTask)
      (row another : PrivateMessageRow),
    mail.sends[first]? = some one → one.phase.row = some row →
    mail.sends[second]? = some other → other.phase.row = some another →
    row.seq = another.seq → first = second
  pending : ∀ (index : ℕ) (task : SendTask),
    mail.sends[index]? = some task → task.phase.devices.Nodup ∧
      ∀ device ∈ task.phase.devices,
        device ∈ mail.store.deviceIdsForGroup task.send.groupId

/-- Every recipient has as many copies as the send is to have made, and there
is no message with a number that is yet to be handed out. -/
structure Counted (codec : InboxCodec) (mail : Mailroom) : Prop where
  accounted : ∀ (index : ℕ) (task : SendTask) (row : PrivateMessageRow),
    mail.sends[index]? = some task → task.phase.row = some row →
    ∀ device, Recipient mail.store task.send device →
    copies codec mail device row.notification =
      task.phase.expected (mail.registry.isConnected device) device
  unnumbered : ∀ (device : Uuid) (message : PrivateBusMessage),
    mail.store.lastSeq < message.sequenceNumber.toNat →
    copies codec mail device (.privateMessage message) = 0

structure Accounted (codec : InboxCodec) (mail : Mailroom) : Prop where
  routed : mail.WellRouted
  emptied : mail.Emptied
  numbered : mail.Numbered
  counted : mail.Counted codec

private theorem queuedCount_eq_zero {device : Uuid}
    (absent : ∀ row ∈ mail.store.inbox, row.deviceId ≠ device)
    (message : ServerMessage) :
    queuedCount codec mail.store device message = 0 := by
  unfold queuedCount
  rw [List.countP_eq_zero]
  intro row member
  simp [absent row member]

theorem Accounted.exactlyOnce (accounted : mail.Accounted codec) :
    mail.ExactlyOnce where
  noDuplicate := by
    intro index task row stored held device recipient
    have total := accounted.counted.accounted index task row stored held
      device recipient
    have bound := task.phase.expected_le_one
      (mail.registry.isConnected device) device
    unfold copies at total
    omega
  noLoss := by
    intro index send row stored device recipient reads
    have total := accounted.counted.accounted index _ row stored rfl device
      recipient
    have empty : queuedCount codec mail.store device row.notification = 0 :=
      queuedCount_eq_zero (accounted.emptied device reads) _
    change _ = 1 at total
    unfold copies at total
    omega

private theorem notification_seq_eq {row another : PrivateMessageRow}
    (small : row.seq ≤ Store.i64Max) (alsoSmall : another.seq ≤ Store.i64Max)
    (same : row.notification = another.notification) :
    row.seq = another.seq := by
  have number : UInt64.ofNat row.seq = UInt64.ofNat another.seq := by
    injection same with message
    injection message
  have value := congrArg UInt64.toNat number
  rw [UInt64.toNat_ofNat_of_lt', UInt64.toNat_ofNat_of_lt'] at value
  · exact value
  · exact lt_of_le_of_lt alsoSmall (by decide)
  · exact lt_of_le_of_lt small (by decide)

private theorem Numbered.notification_ne (numbered : mail.Numbered)
    {index other : ℕ} {task another : SendTask}
    {row second : PrivateMessageRow}
    (stored : mail.sends[index]? = some task)
    (held : task.phase.row = some row)
    (alsoStored : mail.sends[other]? = some another)
    (alsoHeld : another.phase.row = some second)
    (different : other ≠ index) :
    second.notification ≠ row.notification := by
  intro same
  have small := (numbered.stored index task row stored held).1
  have alsoSmall :=
    (numbered.stored other another second alsoStored alsoHeld).1
  have number := notification_seq_eq (le_trans alsoSmall numbered.small)
    (le_trans small numbered.small) same
  exact different (numbered.distinct other index another task second row
    alsoStored alsoHeld stored held number)

/-! A published send that moves on. -/

/-- A send goes from one phase to the next, and every device gains a number of
copies of its message. -/
structure Moves (codec : InboxCodec) (mail after : Mailroom) (index : ℕ)
    (send : PrivateSend) (before phase : SendPhase)
    (row : PrivateMessageRow) (gained : Uuid → ℕ) : Prop where
  found : mail.sends[index]? = some ⟨send, before⟩
  held : before.row = some row
  sends : after.sends = mail.advance index send phase
  kept : phase.row = some row
  members : mail.store.SameMembers after.store
  messages : after.store.privateMessages = mail.store.privateMessages
  registry : after.registry = mail.registry
  streams : after.streams = mail.streams
  inbox : ∀ queued ∈ after.store.inbox,
    queued ∈ mail.store.inbox ∨ ¬ mail.Reads queued.deviceId
  distinct : phase.devices.Nodup
  listed : ∀ device ∈ phase.devices,
    device ∈ mail.store.deviceIdsForGroup send.groupId
  copies : ∀ device message,
    Mailroom.copies codec after device message =
      Mailroom.copies codec mail device message +
        if message = row.notification then gained device else 0
  settled : ∀ device, Recipient mail.store send device →
    phase.expected (mail.registry.isConnected device) device =
      before.expected (mail.registry.isConnected device) device +
        gained device

theorem Recipient.of_same {before after : Store}
    (same : before.SameMembers after) {send : PrivateSend} {device : Uuid}
    (recipient : Recipient after send device) :
    Recipient before send device := by
  unfold Recipient at recipient
  rw [same.deviceIdsForGroup] at recipient
  exact recipient

section Moves

variable {after : Mailroom} {index : ℕ} {send : PrivateSend}
  {before phase : SendPhase} {row : PrivateMessageRow} {gained : Uuid → ℕ}
  (moves : Moves codec mail after index send before phase row gained)

include moves

theorem Moves.lastSeq : after.store.lastSeq = mail.store.lastSeq := by
  unfold Store.lastSeq
  rw [moves.messages]

private theorem Moves.task_cases {other : ℕ} {task : SendTask}
    (stored : after.sends[other]? = some task) :
    (other = index ∧ task = ⟨send, phase⟩) ∨
      (other ≠ index ∧ mail.sends[other]? = some task) := by
  rw [moves.sends] at stored
  exact Slots.set_cases moves.found stored

private theorem Moves.row_before {other : ℕ} {task : SendTask}
    {held : PrivateMessageRow} (stored : after.sends[other]? = some task)
    (rowOf : task.phase.row = some held) :
    ∃ old, mail.sends[other]? = some old ∧ old.phase.row = some held ∧
      old.send = task.send := by
  cases moves.task_cases stored with
  | inl moved =>
      obtain ⟨rfl, rfl⟩ := moved
      rw [moves.kept] at rowOf
      cases rowOf
      exact ⟨_, moves.found, moves.held, rfl⟩
  | inr unmoved => exact ⟨task, unmoved.2, rowOf, rfl⟩

theorem Moves.numbered (numbered : mail.Numbered) : after.Numbered where
  small := by
    rw [moves.lastSeq]
    exact numbered.small
  stored := by
    intro other task held stored rowOf
    obtain ⟨old, storedBefore, heldBefore, same⟩ :=
      moves.row_before stored rowOf
    rw [moves.lastSeq, ← same]
    exact numbered.stored other old held storedBefore heldBefore
  distinct := by
    intro first second one other held another stored rowOf alsoStored
      alsoRowOf same
    obtain ⟨old, storedBefore, heldBefore, _⟩ :=
      moves.row_before stored rowOf
    obtain ⟨alsoOld, alsoBefore, alsoHeld, _⟩ :=
      moves.row_before alsoStored alsoRowOf
    exact numbered.distinct first second old alsoOld held another
      storedBefore heldBefore alsoBefore alsoHeld same
  pending := by
    intro other task stored
    simp only [moves.members.deviceIdsForGroup]
    cases moves.task_cases stored with
    | inl moved =>
        obtain ⟨rfl, rfl⟩ := moved
        exact ⟨moves.distinct, moves.listed⟩
    | inr unmoved => exact numbered.pending other task unmoved.2

theorem Moves.counted (numbered : mail.Numbered)
    (counted : mail.Counted codec) : after.Counted codec where
  accounted := by
    intro other task held stored rowOf device recipient
    have recipientBefore := Recipient.of_same moves.members recipient
    rw [moves.copies, moves.registry]
    cases moves.task_cases stored with
    | inl moved =>
        obtain ⟨rfl, rfl⟩ := moved
        rw [moves.kept] at rowOf
        cases rowOf
        rw [if_pos rfl, moves.settled device recipientBefore,
          counted.accounted other _ row moves.found moves.held device
            recipientBefore]
    | inr unmoved =>
        rw [if_neg (numbered.notification_ne moves.found moves.held
          unmoved.2 rowOf unmoved.1)]
        exact counted.accounted other task held unmoved.2 rowOf device
          recipientBefore
  unnumbered := by
    intro device message later
    rw [moves.lastSeq] at later
    rw [moves.copies, counted.unnumbered device message later, if_neg]
    intro same
    have issued := (numbered.stored index _ row moves.found moves.held).1
    have number : message.sequenceNumber = UInt64.ofNat row.seq := by
      injection same with equality
      rw [equality]
      rfl
    rw [number, UInt64.toNat_ofNat_of_lt'] at later
    · omega
    · exact lt_of_le_of_lt (le_trans issued numbered.small) (by decide)

theorem Moves.emptied (emptied : mail.Emptied) : after.Emptied := by
  intro device reads queued member same
  have readsBefore : mail.Reads device := by
    unfold Reads at reads
    rw [moves.streams] at reads
    exact reads
  cases moves.inbox queued member with
  | inl present => exact emptied device readsBefore queued present same
  | inr unread => exact unread (same ▸ readsBefore)

theorem Moves.accounted (accounted : mail.Accounted codec) :
    after.Accounted codec where
  routed := accounted.routed.of_same moves.members moves.registry
    moves.streams
  emptied := moves.emptied accounted.emptied
  numbered := moves.numbered accounted.numbered
  counted := moves.counted accounted.numbered accounted.counted

end Moves

/-! The steps of a send after its row is stored. -/

private theorem copies_receive (sends : List SendTask) (receipts : List Receipt)
    (device : Uuid) (message : ServerMessage) :
    copies codec
        { mail with sends, received := mail.received ++ receipts }
        device message =
      copies codec mail device message +
        receipts.count ⟨device, message⟩ := by
  unfold copies receivedCount
  rw [List.count_append]
  exact Nat.add_right_comm _ _ _

private theorem WellRouted.subscription_listens (routed : mail.WellRouted)
    (group device : Uuid) (channel : ℕ)
    (subscribed : mail.registry.subscription group device = some channel) :
    mail.Listens device channel :=
  routed.listens (routed.consistent.current group device channel subscribed)

theorem Accounted.publish (accounted : mail.Accounted codec) (index : ℕ) :
    (mail.publish index).Accounted codec := by
  unfold Mailroom.publish
  split
  · rename_i send row found
    have grouped : row.groupId = send.groupId :=
      (accounted.numbered.stored index _ row found rfl).2
    have moves : Moves codec mail
        { mail with
          sends := mail.advance index send (.listing row)
          received := mail.received ++ mail.arrivals (mail.registry.route
            (.priv row.busMessage send.claims.deviceId)) }
        index send (.publishing row) (.listing row) row
        (fun device => if device ∈ audience mail.registry row.groupId
          send.claims.deviceId then 1 else 0) := by
      refine ⟨found, rfl, rfl, rfl, .refl _, rfl, rfl, rfl,
        fun _ member => .inl member, List.nodup_nil,
        fun _ absent => absurd absent List.not_mem_nil, ?_, ?_⟩
      · intro device message
        have arrived := count_arrivals_deliverToGroup
          (accounted.routed.subscription_listens row.groupId)
          row.notification send.claims.deviceId device message
        rw [copies_receive, ← ite_and]
        exact congrArg (copies codec mail device message + ·) arrived
      · intro device recipient
        have reached := accounted.routed.mem_audience_iff
          (grouped ▸ recipient.1) recipient.2
        simp only [SendPhase.expected, reached, Nat.zero_add]
        cases mail.registry.isConnected device with
        | true => rfl
        | false => rfl
    exact moves.accounted accounted
  · exact accounted

theorem Accounted.advance (accounted : mail.Accounted codec) {index : ℕ}
    {send : PrivateSend} {before phase : SendPhase} {row : PrivateMessageRow}
    (found : mail.sends[index]? = some ⟨send, before⟩)
    (held : before.row = some row) (kept : phase.row = some row)
    (distinct : phase.devices.Nodup)
    (listed : ∀ device ∈ phase.devices,
      device ∈ mail.store.deviceIdsForGroup send.groupId)
    (settled : ∀ device, Recipient mail.store send device →
      phase.expected (mail.registry.isConnected device) device =
        before.expected (mail.registry.isConnected device) device) :
    ({ mail with sends := mail.advance index send phase } :
      Mailroom).Accounted codec := by
  have moves : Moves codec mail
      { mail with sends := mail.advance index send phase }
      index send before phase row (fun _ => 0) := by
    refine ⟨found, held, rfl, kept, .refl _, rfl, rfl, rfl,
      fun _ member => .inl member, distinct, listed, ?_, settled⟩
    intro device message
    rw [ite_self]
    rfl
  exact moves.accounted accounted

theorem Accounted.list (accounted : mail.Accounted codec) (index : ℕ) :
    (mail.list index).Accounted codec := by
  unfold Mailroom.list
  split
  · rename_i send row found
    have distinct : (mail.store.deviceIdsForGroup send.groupId).Nodup :=
      List.Nodup.sublist (List.Sublist.map _ List.filter_sublist)
        accounted.routed.keyed
    refine accounted.advance found rfl rfl distinct
      (fun _ member => member) ?_
    intro device recipient
    exact if_pos recipient.1
  · exact accounted

/-- A check skips a device that has its copy, or finds one that has none. -/
theorem Accounted.check (accounted : mail.Accounted codec) (index : ℕ) :
    (mail.check index).Accounted codec := by
  unfold Mailroom.check
  split
  · rename_i send row found
    exact accounted.advance found rfl rfl List.nodup_nil
      (fun _ absent => absurd absent List.not_mem_nil) (fun _ _ => rfl)
  · rename_i send row device rest found
    obtain ⟨nodup, listed⟩ := accounted.numbered.pending index _ found
    split
    · rename_i skipped
      refine accounted.advance found rfl rfl (List.nodup_cons.mp nodup).2
        (fun other member => listed other (List.mem_cons_of_mem _ member)) ?_
      intro other recipient
      by_cases same : other = device
      · subst same
        have connected : mail.registry.isConnected other = true :=
          skipped.resolve_left recipient.2
        simp [SendPhase.expected, connected]
      · simp [SendPhase.expected, same]
    · rename_i offline
      refine accounted.advance found rfl rfl nodup listed ?_
      intro other recipient
      by_cases same : other = device
      · subst same
        have disconnected : mail.registry.isConnected other = false := by
          simpa using fun connected => offline (.inr connected)
        simp [SendPhase.expected, disconnected]
      · simp [SendPhase.expected, same]
  · exact accounted

private theorem inboxMessage_inboxPayload (device : Uuid)
    (row : PrivateMessageRow) :
    MessagingSvc.inboxMessage codec.decode
        ⟨device, .priv, row.groupId, codec.encode row.inboxPayload⟩ =
      some row.notification := by
  simp only [MessagingSvc.inboxMessage, MessagingSvc.privateNotification,
    codec.decode_encode]
  rfl

private theorem queuedCount_append (store : Store) (row : PrivateMessageRow)
    (device other : Uuid) (message : ServerMessage) :
    queuedCount codec
        { store with inbox := store.inbox ++ [⟨device, .priv, row.groupId,
          codec.encode row.inboxPayload⟩] } other message =
      queuedCount codec store other message +
        if message = row.notification then
          (if other = device then 1 else 0) else 0 := by
  simp only [queuedCount, List.countP_append, List.countP_singleton,
    inboxMessage_inboxPayload]
  by_cases same : message = row.notification
  · by_cases here : other = device
    · simp [same, here]
    · simp [same, here, Ne.symm here]
  · simp [same, Ne.symm same]

private theorem hasDevice_of_listed {store : Store} {group device : Uuid}
    (listed : device ∈ store.deviceIdsForGroup group) :
    store.hasDevice device = true := by
  unfold Store.deviceIdsForGroup at listed
  obtain ⟨row, kept, named⟩ := List.mem_map.mp listed
  unfold Store.hasDevice
  rw [List.any_eq_true]
  exact ⟨row, (List.mem_filter.mp kept).1, by simpa using named⟩

theorem Accounted.enqueue (accounted : mail.Accounted codec) (index : ℕ)
    (unread : ∀ send row device rest,
      mail.sends[index]? = some ⟨send, .queueing row device rest⟩ →
      ¬ mail.Reads device) : (mail.enqueue codec index).Accounted codec := by
  unfold Mailroom.enqueue
  split
  · rename_i send row device rest found
    obtain ⟨nodup, listed⟩ := accounted.numbered.pending index _ found
    have present : mail.store.hasDevice device = true :=
      hasDevice_of_listed (listed device List.mem_cons_self)
    have grouped : row.groupId = send.groupId :=
      (accounted.numbered.stored index _ row found rfl).2
    rw [Store.enqueueInbox_of_device present, ← grouped]
    have moves : Moves codec mail
        { mail with
          store := { mail.store with inbox := mail.store.inbox ++ [⟨device,
            .priv, row.groupId, codec.encode row.inboxPayload⟩] }
          sends := mail.advance index send (.mailing row rest) }
        index send (.queueing row device rest) (.mailing row rest) row
        (fun other => if other = device then 1 else 0) := by
      refine ⟨found, rfl, rfl, rfl, ⟨rfl, rfl⟩, rfl, rfl, rfl, ?_,
        (List.nodup_cons.mp nodup).2,
        fun other member => listed other (List.mem_cons_of_mem _ member),
        ?_, ?_⟩
      · intro queued member
        cases List.mem_append.mp member with
        | inl before => exact .inl before
        | inr added =>
            rw [List.mem_singleton.mp added]
            exact .inr (unread send row device rest found)
      · intro other message
        simp only [copies]
        rw [queuedCount_append, ← Nat.add_assoc]
        rfl
      · intro other recipient
        by_cases same : other = device
        · subst same
          have checked : other ∉ rest := (List.nodup_cons.mp nodup).1
          simp [SendPhase.expected, checked]
        · simp [SendPhase.expected, same]
    exact moves.accounted accounted
  · exact accounted

/-! The steps of a send before it has a row. -/

private theorem Accounted.of_sends (accounted : mail.Accounted codec)
    {sends : List SendTask}
    (known : ∀ (index : ℕ) (task : SendTask), sends[index]? = some task →
      mail.sends[index]? = some task ∨
        (task.phase.row = none ∧ task.phase.devices = [])) :
    ({ mail with sends } : Mailroom).Accounted codec := by
  have before : ∀ (index : ℕ) (task : SendTask) (row : PrivateMessageRow),
      sends[index]? = some task → task.phase.row = some row →
      mail.sends[index]? = some task := by
    intro index task row stored held
    cases known index task stored with
    | inl present => exact present
    | inr bare =>
        rw [bare.1] at held
        cases held
  refine ⟨accounted.routed.of_same (.refl _) rfl rfl, accounted.emptied,
    ⟨accounted.numbered.small, ?_, ?_, ?_⟩,
    ⟨?_, accounted.counted.unnumbered⟩⟩
  · intro index task row stored held
    exact accounted.numbered.stored index task row
      (before index task row stored held) held
  · intro first second one other row another stored held alsoStored alsoHeld
      same
    exact accounted.numbered.distinct first second one other row another
      (before first one row stored held) held
      (before second other another alsoStored alsoHeld) alsoHeld same
  · intro index task stored
    cases known index task stored with
    | inl present => exact accounted.numbered.pending index task present
    | inr bare => simp [bare.2]
  · intro index task row stored held
    exact accounted.counted.accounted index task row
      (before index task row stored held) held

theorem Accounted.submit (accounted : mail.Accounted codec) (fresh : Uuid)
    (claims : Claims) (message : SendPrivateMessage) :
    (mail.submit fresh claims message).Accounted codec := by
  unfold Mailroom.submit
  split
  · apply accounted.of_sends
    intro index task stored
    cases Slots.append_cases stored with
    | inl present => exact .inl present
    | inr added =>
        obtain ⟨_, rfl⟩ := added
        exact .inr ⟨rfl, rfl⟩
  · exact accounted

private theorem storeSend_cases {store : Store} {send : PrivateSend}
    (new : store.findPrivateMessage send.groupId send.clientMessageId = none)
    (draw : RowDraw) :
    (∃ error, storeSend draw send store = (.error error, store)) ∨
    (∃ row : PrivateMessageRow, store.lastSeq < row.seq ∧
      row.seq ≤ Store.i64Max ∧ row.groupId = send.groupId ∧
      storeSend draw send store = (.ok row,
        { store with privateMessages := store.privateMessages ++ [row] })) := by
  unfold storeSend
  rw [Store.storePrivateMessage_of_new new]
  cases Store.insertPrivateMessage_cases _ store with
  | inl failed => exact .inl failed
  | inr stored => exact .inr ⟨_, stored.1, stored.2.1, rfl, stored.2.2⟩

section StoreNew

variable {index : ℕ} {send : PrivateSend} {row : PrivateMessageRow}
  (found : mail.sends[index]? = some ⟨send, .storing⟩)
  (next : mail.store.lastSeq < row.seq)

def stored (mail : Mailroom) (index : ℕ) (send : PrivateSend)
    (row : PrivateMessageRow) : Mailroom :=
  { mail with
    store := { mail.store with
      privateMessages := mail.store.privateMessages ++ [row] }
    sends := mail.advance index send (.publishing row) }

private theorem sameMembers_stored :
    mail.store.SameMembers (mail.stored index send row).store := ⟨rfl, rfl⟩

include next in
private theorem lastSeq_stored :
    (mail.stored index send row).store.lastSeq = row.seq := by
  simp only [stored, Store.lastSeq, Store.lastSeqOf_append] at next ⊢
  omega

include found in
private theorem Numbered.stored_cases (numbered : mail.Numbered) {other : ℕ}
    {task : SendTask} {held : PrivateMessageRow}
    (present : (mail.stored index send row).sends[other]? = some task)
    (rowOf : task.phase.row = some held) :
    (other = index ∧ task = ⟨send, .publishing row⟩ ∧ held = row) ∨
      (other ≠ index ∧ mail.sends[other]? = some task ∧
        held.seq ≤ mail.store.lastSeq) := by
  cases Slots.set_cases found present with
  | inl moved =>
      obtain ⟨rfl, rfl⟩ := moved
      cases rowOf
      exact .inl ⟨rfl, rfl, rfl⟩
  | inr unmoved =>
      exact .inr ⟨unmoved.1, unmoved.2,
        (numbered.stored other task held unmoved.2 rowOf).1⟩

include found next in
private theorem Numbered.storeNew (numbered : mail.Numbered)
    (room : row.seq ≤ Store.i64Max)
    (grouped : row.groupId = send.groupId) :
    (mail.stored index send row).Numbered where
  small := by
    rw [lastSeq_stored next]
    exact room
  stored := by
    intro other task held present rowOf
    rw [lastSeq_stored next]
    cases numbered.stored_cases found present rowOf with
    | inl moved =>
        obtain ⟨rfl, rfl, rfl⟩ := moved
        exact ⟨le_rfl, grouped⟩
    | inr unmoved =>
        have old := numbered.stored other task held unmoved.2.1 rowOf
        exact ⟨by omega, old.2⟩
  distinct := by
    intro first second one other held another present rowOf alsoPresent
      alsoRowOf same
    cases numbered.stored_cases found present rowOf with
    | inl moved =>
        obtain ⟨rfl, rfl, rfl⟩ := moved
        cases numbered.stored_cases found alsoPresent alsoRowOf with
        | inl alsoMoved => exact alsoMoved.1.symm
        | inr alsoUnmoved => omega
    | inr unmoved =>
        cases numbered.stored_cases found alsoPresent alsoRowOf with
        | inl alsoMoved =>
            obtain ⟨rfl, rfl, rfl⟩ := alsoMoved
            omega
        | inr alsoUnmoved =>
            exact numbered.distinct first second one other held another
              unmoved.2.1 rowOf alsoUnmoved.2.1 alsoRowOf same
  pending := by
    intro other task present
    simp only [sameMembers_stored.deviceIdsForGroup]
    cases Slots.set_cases found present with
    | inl moved =>
        obtain ⟨_, rfl⟩ := moved
        simp [SendPhase.devices]
    | inr unmoved => exact numbered.pending other task unmoved.2

private theorem Counted.copies_new (counted : mail.Counted codec)
    (room : row.seq ≤ Store.i64Max)
    (next : mail.store.lastSeq < row.seq) (device : Uuid) :
    copies codec mail device row.notification = 0 := by
  apply counted.unnumbered
  have value : (UInt64.ofNat row.seq).toNat = row.seq := by
    apply UInt64.toNat_ofNat_of_lt'
    exact lt_of_le_of_lt room (by decide : Store.i64Max < 2 ^ 64)
  simp only [PrivateMessageRow.busMessage, value]
  exact next

include found next in
private theorem Counted.storeNew (numbered : mail.Numbered)
    (counted : mail.Counted codec) (room : row.seq ≤ Store.i64Max) :
    (mail.stored index send row).Counted codec where
  accounted := by
    intro other task held present rowOf device recipient
    cases numbered.stored_cases found present rowOf with
    | inl moved =>
        obtain ⟨rfl, rfl, rfl⟩ := moved
        exact counted.copies_new room next device
    | inr unmoved =>
        exact counted.accounted other task held unmoved.2.1 rowOf device
          (Recipient.of_same sameMembers_stored recipient)
  unnumbered := by
    intro device message later
    rw [lastSeq_stored next] at later
    exact counted.unnumbered device message (by omega)

include found next in
private theorem Accounted.storeNew (accounted : mail.Accounted codec)
    (room : row.seq ≤ Store.i64Max)
    (grouped : row.groupId = send.groupId) :
    (mail.stored index send row).Accounted codec where
  routed := accounted.routed.of_same sameMembers_stored rfl rfl
  emptied := accounted.emptied
  numbered := accounted.numbered.storeNew found next room grouped
  counted := accounted.counted.storeNew found next accounted.numbered room

end StoreNew

theorem Accounted.storeRow (accounted : mail.Accounted codec) (index : ℕ)
    (draw : RowDraw)
    (new : ∀ send, mail.sends[index]? = some ⟨send, .storing⟩ →
      mail.store.findPrivateMessage send.groupId send.clientMessageId =
        none) : (mail.storeRow index draw).Accounted codec := by
  unfold Mailroom.storeRow
  split
  · rename_i send found
    cases storeSend_cases (new send found) draw with
    | inl failed =>
        obtain ⟨error, outcome⟩ := failed
        rw [outcome]
        apply accounted.of_sends
        intro other task stored
        cases Slots.set_cases found stored with
        | inl moved =>
            obtain ⟨_, rfl⟩ := moved
            exact .inr ⟨rfl, rfl⟩
        | inr unmoved => exact .inl unmoved.2
    | inr stored =>
        obtain ⟨row, next, room, grouped, outcome⟩ := stored
        rw [outcome]
        exact accounted.storeNew found next room grouped
  · exact accounted

/-! The steps of streams. -/

/-- A stream that comes or goes changes nothing for a send, unless the send
has still to check the device. -/
private theorem Accounted.of_streams (accounted : mail.Accounted codec)
    {after : Mailroom} (routed : after.WellRouted) (emptied : after.Emptied)
    (sends : after.sends = mail.sends)
    (members : mail.store.SameMembers after.store)
    (messages : after.store.privateMessages = mail.store.privateMessages)
    (copied : ∀ device message, copies codec after device message =
      copies codec mail device message)
    (connected : ∀ device,
      after.registry.isConnected device = mail.registry.isConnected device ∨
        ¬ mail.Awaited device) : after.Accounted codec := by
  have last : after.store.lastSeq = mail.store.lastSeq := by
    simp only [Store.lastSeq, messages]
  refine ⟨routed, emptied, ⟨?_, ?_, ?_, ?_⟩, ⟨?_, ?_⟩⟩
  · rw [last]
    exact accounted.numbered.small
  · rw [sends, last]
    exact accounted.numbered.stored
  · rw [sends]
    exact accounted.numbered.distinct
  · simp only [sends, members.deviceIdsForGroup]
    exact accounted.numbered.pending
  · intro index task row stored held device recipient
    rw [sends] at stored
    have recipientBefore := Recipient.of_same members recipient
    rw [copied, accounted.counted.accounted index task row stored held device
      recipientBefore]
    cases connected device with
    | inl same => rw [same]
    | inr unawaited =>
        apply SendPhase.expected_congr
        rw [Bool.eq_false_iff]
        intro awaits
        exact unawaited ⟨index, task, stored, awaits, recipientBefore⟩
  · intro device message later
    rw [last] at later
    rw [copied]
    exact accounted.counted.unnumbered device message later

theorem Accounted.lookup (accounted : mail.Accounted codec) {claims : Claims}
    (authentic : ∃ row ∈ mail.store.devices,
      row.id = claims.deviceId ∧ row.userId = claims.sub) :
    (mail.lookup claims).Accounted codec := by
  have emptied : (mail.lookup claims).Emptied := by
    intro device reads
    obtain ⟨index, stream, stored, same, reading⟩ := reads
    cases Slots.append_cases stored with
    | inl before =>
        exact accounted.emptied device ⟨index, stream, before, same, reading⟩
    | inr added =>
        obtain ⟨_, rfl⟩ := added
        cases reading
  exact accounted.of_streams (accounted.routed.lookup authentic) emptied rfl
    (.refl _) rfl (fun _ _ => rfl) (fun _ => .inl rfl)

private theorem reads_setPhase {index : ℕ} {stream : MailStream}
    (found : mail.streams[index]? = some stream) {phase : StreamPhase}
    (closed : phase ≠ .reading) {registry : Registry ℕ} {device : Uuid}
    (reads : ({ mail with
      registry, streams := mail.setPhase index stream phase } :
        Mailroom).Reads device) : mail.Reads device := by
  obtain ⟨other, another, stored, same, reading⟩ := reads
  cases Slots.set_cases found stored with
  | inl moved =>
      obtain ⟨_, rfl⟩ := moved
      exact absurd reading closed
  | inr unmoved => exact ⟨other, another, unmoved.2, same, reading⟩

theorem Accounted.register (accounted : mail.Accounted codec) (index : ℕ)
    (undisturbed : ∀ stream, mail.inPhase index .listed = some stream →
      mail.registry.isConnected stream.claims.deviceId = true ∨
        ¬ mail.Awaited stream.claims.deviceId) :
    (mail.register index).Accounted codec := by
  unfold Mailroom.register
  split
  · rename_i stream inPhase
    obtain ⟨found, listed⟩ := inPhase_found inPhase
    refine accounted.of_streams (accounted.routed.register found listed) ?_
      rfl (.refl _) rfl (fun _ _ => rfl) ?_
    · intro device reads
      exact accounted.emptied device
        (reads_setPhase found StreamPhase.noConfusion reads)
    · intro device
      rw [isConnected_eq, Registry.senderOf_register]
      by_cases same : device = stream.claims.deviceId
      · rw [if_pos same, same]
        cases undisturbed stream inPhase with
        | inl connected => exact .inl connected.symm
        | inr unawaited => exact .inr unawaited
      · rw [if_neg same]
        exact .inl rfl
  · exact accounted

theorem Accounted.close (accounted : mail.Accounted codec) (index : ℕ)
    (undisturbed : ∀ stream, mail.inPhase index .reading = some stream →
      ¬ mail.Awaited stream.claims.deviceId ∧
        ∀ (other : ℕ) (another : MailStream), other ≠ index →
          mail.streams[other]? = some another →
          another.claims.deviceId = stream.claims.deviceId →
          another.live = false) : (mail.close index).Accounted codec := by
  unfold Mailroom.close
  split
  · rename_i stream inPhase
    obtain ⟨found, _⟩ := inPhase_found inPhase
    obtain ⟨unawaited, alone⟩ := undisturbed stream inPhase
    refine accounted.of_streams (accounted.routed.close found alone) ?_
      rfl (.refl _) rfl (fun _ _ => rfl) ?_
    · intro device reads
      exact accounted.emptied device
        (reads_setPhase found StreamPhase.noConfusion reads)
    · intro device
      rw [isConnected_eq, Registry.senderOf_unregister]
      by_cases same : device = stream.claims.deviceId
      · rw [same]
        exact .inr unawaited
      · rw [if_neg same]
        exact .inl rfl
  · exact accounted

private theorem queuedCount_drainInbox (store : Store) (device other : Uuid)
    (message : ServerMessage) :
    (if other = device then ((store.drainInbox device).1.filterMap
        (MessagingSvc.inboxMessage codec.decode)).count message else 0) +
        queuedCount codec (store.drainInbox device).2 other message =
      queuedCount codec store other message := by
  simp only [queuedCount, Store.drainInbox]
  induction store.inbox with
  | nil => simp
  | cons row rest induction =>
      by_cases here : row.deviceId = device
      · subst here
        by_cases same : other = row.deviceId
        · subst same
          cases read : MessagingSvc.inboxMessage codec.decode row with
          | none => simpa [read] using induction
          | some found =>
              simp only [if_true] at induction
              simp [read, List.count_cons, List.countP_cons]
              omega
        · simpa [same, Ne.symm same] using induction
      · simp [here, List.countP_cons, ← induction, Nat.add_assoc]

theorem Accounted.drain (accounted : mail.Accounted codec) (index : ℕ) :
    (mail.drain codec index).Accounted codec := by
  unfold Mailroom.drain
  split
  · rename_i stream inPhase
    obtain ⟨found, registered⟩ := inPhase_found inPhase
    have live : stream.live = true := by
      simp only [MailStream.live, registered]
    obtain ⟨channel, sender⟩ :=
      accounted.routed.connected index stream found live
    have members : mail.store.SameMembers
        (mail.store.drainInbox stream.claims.deviceId).2 := ⟨rfl, rfl⟩
    refine accounted.of_streams ?_ ?_ rfl members rfl ?_ (fun _ => .inl rfl)
    · exact (accounted.routed.drain found registered).of_same members rfl rfl
    · intro device reads row kept
      obtain ⟨other, another, stored, same, reading⟩ := reads
      cases Slots.set_cases found stored with
      | inl moved =>
          obtain ⟨_, rfl⟩ := moved
          rw [← same]
          exact Store.drainInbox_deletes mail.store _ row kept
      | inr unmoved =>
          exact accounted.emptied device
            ⟨other, another, unmoved.2, same, reading⟩ row
            (List.mem_of_mem_filter kept)
    · intro device message
      simp only [copies, receivedCount, List.count_append]
      rw [arrivals_deliverToDevice (accounted.routed.listens sender),
        count_map_receipt, Nat.add_assoc, queuedCount_drainInbox]
  · exact accounted

end Mailroom

end Accord
