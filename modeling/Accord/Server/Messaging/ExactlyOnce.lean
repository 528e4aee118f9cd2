import Accord.Server.Messaging.Accounting

/-! Private messages reach every member device exactly once, as long as no
device comes or goes at a bad moment. -/

namespace Accord

namespace Mailroom

variable {codec : InboxCodec}

theorem Accounted.step (mail : Mailroom) (event : MailEvent)
    (accounted : mail.Accounted codec) (lawful : mail.Lawful event) :
    (mail.step codec event).Accounted codec := by
  cases event with
  | lookup claims => exact accounted.lookup lawful
  | register index => exact accounted.register index lawful
  | drain index => exact accounted.drain index
  | close index => exact accounted.close index lawful
  | submit fresh claims message =>
      exact accounted.submit fresh claims message
  | storeRow index draw => exact accounted.storeRow index draw lawful
  | publish index => exact accounted.publish index
  | list index => exact accounted.list index
  | check index => exact accounted.check index
  | enqueue index => exact accounted.enqueue index lawful

/-- Device ids are a key, numbers fit an `i64`, and whatever waits in a
mailbox has the number of a message that was stored. -/
structure Sound (codec : InboxCodec) (store : Store) : Prop where
  keyed : (store.devices.map (·.id)).Nodup
  small : store.lastSeq ≤ Store.i64Max
  backlog : ∀ row ∈ store.inbox, ∀ message,
    MessagingSvc.inboxMessage codec.decode row =
      some (.privateMessage message) →
    message.sequenceNumber.toNat ≤ store.lastSeq

theorem Sound.accounted {store : Store} (sound : Sound codec store) :
    ({ store } : Mailroom).Accounted codec := by
  have noStream : ∀ (index : ℕ) (stream : MailStream),
      ([] : List MailStream)[index]? ≠ some stream := by simp
  have noSend : ∀ (index : ℕ) (task : SendTask),
      ([] : List SendTask)[index]? ≠ some task := by simp
  refine ⟨⟨sound.keyed, ?_, ?_, Registry.consistent_empty, ?_, ?_⟩, ?_,
    ⟨sound.small, ?_, ?_, ?_⟩, ⟨?_, ?_⟩⟩
  · intro index stream stored
    exact absurd stored (noStream index stream)
  · intro index stream stored
    exact absurd stored (noStream index stream)
  · intro device channel sender
    cases sender
  · intro index stream stored
    exact absurd stored (noStream index stream)
  · intro device reads
    obtain ⟨index, stream, stored, _⟩ := reads
    exact absurd stored (noStream index stream)
  · intro index task row stored
    exact absurd stored (noSend index task)
  · intro first second one other row another stored
    exact absurd stored (noSend first one)
  · intro index task stored
    exact absurd stored (noSend index task)
  · intro index task row stored
    exact absurd stored (noSend index task)
  · intro device message later
    have unqueued : queuedCount codec store device
        (.privateMessage message) = 0 := by
      simp only [queuedCount, List.countP_eq_zero]
      intro row member matched
      simp only [Bool.and_eq_true, beq_iff_eq] at matched
      exact absurd (sound.backlog row member message matched.2)
        (not_le.mpr later)
    simpa [copies, receivedCount] using unqueued

/-- In every run in which no device comes or goes at a bad moment, each
stored message reaches each recipient exactly once. -/
theorem exactlyOnce_of_lawful {store : Store} (sound : Sound codec store)
    {events : List MailEvent}
    (lawful : EventRun.Each (step codec) Lawful { store } events) :
    EventRun.Always (step codec) ExactlyOnce { store } events :=
  (EventRun.always_of_step Accounted.step sound.accounted lawful).imp
    fun _ accounted => accounted.exactlyOnce

/-! A private group of two users with a device each. -/

def mailStore : Store where
  users := [⟨1, "alice", "Alice", "", true, false, none, ""⟩,
    ⟨2, "bob", "Bob", "", false, false, none, ""⟩]
  devices := [⟨10, 1, "desktop", none⟩, ⟨20, 2, "phone", none⟩]
  groups := [⟨5, "secret", "", .priv, .text, "", 0⟩]
  groupMembers := [⟨5, 1, "owner"⟩, ⟨5, 2, "member"⟩]

def hello : MailEvent :=
  .submit 99 ⟨1, 10⟩ ⟨some (.uuid 5), [1, 2, 3], 0, some (.uuid 77)⟩

def helloSend : PrivateSend := ⟨⟨1, 10⟩, 5, [1, 2, 3], 0, 77⟩

def helloRow : PrivateMessageRow where
  id := 900
  groupId := 5
  senderId := 1
  senderDeviceId := 10
  ciphertext := [1, 2, 3]
  epoch := 0
  clientMessageId := 77
  seq := 1
  createdAt := 1500

def lateReader : List MailEvent := [
  hello, .storeRow 0 ⟨900, 1, 1500⟩, .publish 0, .list 0, .check 0, .check 0,
  .enqueue 0, .check 0, .lookup ⟨2, 20⟩, .register 0, .drain 0]

/-- The phone comes online between the publication and the check. -/
def racingReader : List MailEvent := [
  hello, .storeRow 0 ⟨900, 1, 1500⟩, .publish 0, .lookup ⟨2, 20⟩, .register 0,
  .drain 0, .list 0, .check 0, .check 0, .check 0]

/-- The phone goes offline between the publication and the check. -/
def leavingReader : List MailEvent := [
  .lookup ⟨2, 20⟩, .register 0, .drain 0, hello, .storeRow 0 ⟨900, 1, 1500⟩,
  .publish 0, .close 0, .list 0, .check 0, .check 0, .enqueue 0, .check 0,
  .lookup ⟨2, 20⟩, .register 1, .drain 1]

private theorem sound_mailStore : Sound .json mailStore :=
  ⟨by decide, by decide, fun _ absent => absurd absent List.not_mem_nil⟩

private theorem lateReader_lawful :
    EventRun.Each (step .json) Lawful { store := mailStore } lateReader := by
  refine ⟨trivial, fun send _ => rfl, trivial, trivial, trivial, trivial,
    ?_, trivial, ?_, ?_, trivial, trivial⟩
  · intro send row device rest _ reads
    obtain ⟨index, stream, stored, _⟩ := reads
    cases stored
  · exact ⟨⟨20, 2, "phone", none⟩, by decide, rfl, rfl⟩
  · intro stream _
    right
    intro awaited
    obtain ⟨index, task, stored, awaits, _⟩ := awaited
    cases index with
    | zero =>
        cases stored
        cases awaits
    | succ index => cases stored

theorem lateReader_exactlyOnce :
    EventRun.Each (step .json) Lawful { store := mailStore } lateReader ∧
      EventRun.Always (step .json) ExactlyOnce { store := mailStore }
        lateReader ∧
      (EventRun.run (step .json) { store := mailStore } lateReader).received =
        [⟨20, helloRow.notification⟩] :=
  ⟨lateReader_lawful, exactlyOnce_of_lawful sound_mailStore lateReader_lawful,
    by decide +kernel⟩

/-- A device that connects at a bad moment misses the message, and one that
disconnects then gets it twice. -/
theorem racingReader_misses :
    ¬ EventRun.Always (step .json) ExactlyOnce { store := mailStore }
        racingReader ∧
      ¬ EventRun.Always (step .json) ExactlyOnce { store := mailStore }
        leavingReader := by
  have recipient : ∀ store : Store, store.deviceIdsForGroup 5 = [10, 20] →
      Recipient store helloSend 20 := by
    intro store devices
    refine ⟨?_, by decide⟩
    change 20 ∈ store.deviceIdsForGroup 5
    rw [devices]
    decide
  constructor
  · intro always
    have delivered := always.last.noLoss 0 helloSend helloRow
      (by decide +kernel) 20 (recipient _ (by decide +kernel))
      ⟨0, ⟨⟨2, 20⟩, [5], .reading⟩, by decide +kernel, rfl, rfl⟩
    exact absurd delivered (by decide +kernel)
  · intro always
    have delivered := always.last.noDuplicate 0 ⟨helloSend, .done helloRow⟩
      helloRow (by decide +kernel) rfl 20 (recipient _ (by decide +kernel))
    exact absurd delivered (by decide +kernel)

end Mailroom

end Accord
