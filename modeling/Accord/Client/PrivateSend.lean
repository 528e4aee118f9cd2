import Accord.Client.History
import Accord.Library.Tasks

/-! Sending to a private group, await by await.  The message is archived on
the device before it is handed to the stream, and what is archived is copied
to the vault and from there to other devices meanwhile. -/

namespace Accord

structure LogPlace where
  device : ℕ
  userId : String
  groupId : String
  deriving DecidableEq

def LogPlace.vault (place : LogPlace) : String × String :=
  (place.userId, place.groupId)

/-- What came of one append, wherever it is by now.  The code keeps no such
numbers. -/
structure Numbered (Item : Type) where
  number : ℕ
  item : Item
  deriving DecidableEq

abbrev numbers {Item : Type} (items : List (Numbered Item)) : List ℕ :=
  items.map (·.number)

structure ArchiveCopy where
  place : LogPlace
  messages : List (Numbered ArchivedMessage)
  deriving DecidableEq

/-- What a send looks up in the active session of its device. -/
structure SendSession where
  hasEngine : Bool
  outbound : Option ℕ
  userId : Option String
  deriving DecidableEq

structure OutboundMessage where
  groupId : String
  mlsCiphertext : Bytes
  epoch : ℕ
  clientMessageId : Uuid
  deriving DecidableEq

/-- The devices of the accounts, their streams and the vault.  A stream that
is closed stays closed. -/
structure SendDesk where
  active : ℕ → Option SendSession := fun _ => none
  closed : List ℕ := []
  queues : ℕ → List OutboundMessage := fun _ => []
  logs : LogPlace → Option (List (Numbered LogRecord)) := fun _ => none
  marked : List LogPlace := []
  taken : List LogPlace := []
  uploads : List ArchiveCopy := []
  restores : List ArchiveCopy := []
  vault : String × String → Option (List (Numbered ArchivedMessage)) :=
    fun _ => none
  records : ℕ := 0

namespace SendDesk

def outboundBuffer : ℕ := 32

variable (desk : SendDesk)

def append (place : LogPlace) (written : Bool) (record : LogRecord) :
    SendDesk × Option ℕ :=
  if written then
    ({ desk with
        logs := Function.update desk.logs place
          (some ((desk.logs place).getD [] ++ [⟨desk.records, record⟩]))
        records := desk.records + 1 },
      some desk.records)
  else (desk, none)

def markGroup (place : LogPlace) : SendDesk :=
  if place ∈ desk.marked then desk
  else { desk with marked := desk.marked ++ [place] }

/-- The flusher of a device takes its marks when it is done with those it has
taken before. -/
def flush (device : ℕ) : SendDesk :=
  if (∀ place ∈ desk.taken, place.device ≠ device) ∧
      ∀ copy ∈ desk.uploads, copy.place.device ≠ device then
    { desk with
      marked := desk.marked.filter (·.device != device)
      taken := desk.taken ++ desk.marked.filter (·.device == device) }
  else desk

def load (opens : ℕ → Bool) (log : List (Numbered LogRecord)) :
    List (Numbered ArchivedMessage) :=
  log.filterMap fun record =>
    (record.item.decode (opens record.number)).map fun message =>
      ⟨record.number, message⟩

/-- The next blob of a flush, unless nothing can be read. -/
def upload (place : LogPlace) (opens : ℕ → Bool) : SendDesk :=
  if place ∈ desk.taken ∧
      ∀ copy ∈ desk.uploads, copy.place.device ≠ place.device then
    let messages := load opens ((desk.logs place).getD [])
    { desk with
      taken := desk.taken.erase place
      uploads :=
        if messages = [] then desk.uploads
        else ⟨place, messages⟩ :: desk.uploads }
  else desk

def put (copy : ArchiveCopy) (reaches : Bool) : SendDesk :=
  if copy ∈ desk.uploads then
    { desk with
      uploads := desk.uploads.erase copy
      vault :=
        if reaches then
          Function.update desk.vault copy.place.vault (some copy.messages)
        else desk.vault }
  else desk

/-- A log that is not there is restored, if there is a blob that can be
read. -/
def restoreRead (place : LogPlace) (reads : Bool) : SendDesk :=
  match desk.logs place, desk.vault place.vault with
  | none, some messages =>
      if reads then
        { desk with restores := ⟨place, messages⟩ :: desk.restores }
      else desk
  | _, _ => desk

/-- The log is written over, whatever is there by then; a torn write leaves the
first `size` of the records. -/
def restoreWrite (copy : ArchiveCopy) (encryptAtRest : Bool)
    (write : FileWrite String) : SendDesk :=
  if copy ∈ desk.restores then
    let restored : List (Numbered LogRecord) :=
      copy.messages.map fun message =>
        ⟨message.number, .encode copy.place.userId encryptAtRest message.item⟩
    { desk with
      restores := desk.restores.erase copy
      logs := Function.update desk.logs copy.place
        (write.leaves (fun size => some (restored.take size))
          (desk.logs copy.place) (some restored)) }
  else desk

inductive Around where
  | activate (device : ℕ) (session : Option SendSession)
  | close (stream : ℕ)
  | take (stream : ℕ)
  | receive (place : LogPlace) (message : ArchivedMessage)
      (encryptAtRest written : Bool)
  | mark (place : LogPlace)
  | flush (device : ℕ)
  | upload (place : LogPlace) (opens : ℕ → Bool)
  | put (copy : ArchiveCopy) (reaches : Bool)
  | restoreRead (place : LogPlace) (reads : Bool)
  | restoreWrite (copy : ArchiveCopy) (encryptAtRest : Bool)
      (write : FileWrite String)

def around : Around → SendDesk
  | .activate device session =>
      { desk with active := Function.update desk.active device session }
  | .close stream => { desk with closed := stream :: desk.closed }
  | .take stream =>
      { desk with
        queues := Function.update desk.queues stream
          (desk.queues stream).tail }
  | .receive place message encryptAtRest written =>
      (desk.append place written
        (.encode place.userId encryptAtRest message)).1
  | .mark place => desk.markGroup place
  | .flush device => desk.flush device
  | .upload place opens => desk.upload place opens
  | .put copy reaches => desk.put copy reaches
  | .restoreRead place reads => desk.restoreRead place reads
  | .restoreWrite copy encryptAtRest write =>
      desk.restoreWrite copy encryptAtRest write

end SendDesk

/-! The send. -/

structure PrivateSendCall where
  device : ℕ
  groupId : String
  content : String
  deriving DecidableEq

structure OpenSend where
  stream : ℕ
  place : LogPlace
  content : String
  deriving DecidableEq

/-- A send between two of its awaits, with the number of its record once it
has one. -/
inductive PrivateSendTask where
  | opening (call : PrivateSendCall)
  | encrypting (send : OpenSend)
  | persisting (send : OpenSend) (ciphertext : Bytes)
  | recording (send : OpenSend) (ciphertext : Bytes)
  | marking (send : OpenSend) (ciphertext : Bytes) (number : Option ℕ)
  | handing (send : OpenSend) (ciphertext : Bytes) (number : Option ℕ)
  | sent (number : Option ℕ)
  | failed (error : String) (number : Option ℕ)
  deriving DecidableEq

/-- What a turn finds: the outcome of the encryption, the clock, the settings,
whether the append works, and the id drawn. -/
structure PrivateSendInput where
  encrypted : Except String Bytes := .ok []
  nowMs : Int := 0
  encryptAtRest : Bool := false
  written : Bool := true
  messageId : Uuid := 0

namespace PrivateSendTask

def number : PrivateSendTask → Option ℕ
  | .marking _ _ number | .handing _ _ number | .sent number
  | .failed _ number => number
  | _ => none

/-- The number of the record of a send that has returned an error. -/
def failure : PrivateSendTask → Option ℕ
  | .failed _ number => number
  | _ => none

/-- The stream that is next for a message that has a record. -/
def handed : PrivateSendTask → Option (ℕ × ℕ)
  | .handing send _ (some number) => some (send.stream, number)
  | _ => none

end PrivateSendTask

namespace SendDesk

def openSend (desk : SendDesk) (call : PrivateSendCall) :
    Except String OpenSend := do
  let session ← match desk.active call.device with
    | some session => .ok session
    | none => .error "not connected"
  if session.hasEngine then
    match session.outbound with
    | some stream => .ok ⟨stream, ⟨call.device, session.userId.getD "",
        call.groupId⟩, call.content⟩
    | none => .error "message stream is not open"
  else .error "MLS engine not initialized"

def hand (desk : SendDesk) (send : OpenSend) (ciphertext : Bytes)
    (number : Option ℕ) (messageId : Uuid) : SendDesk × PrivateSendTask :=
  if send.stream ∈ desk.closed then
    (desk, .failed "stream closed" number)
  else if (desk.queues send.stream).length < outboundBuffer then
    ({ desk with
        queues := Function.update desk.queues send.stream
          (desk.queues send.stream ++
            [⟨send.place.groupId, ciphertext, 0, messageId⟩]) },
      .sent number)
  else (desk, .handing send ciphertext number)

def archived (send : OpenSend) (nowMs : Int) : ArchivedMessage where
  groupId := send.place.groupId
  senderId := send.place.userId
  content := send.content
  timestampMs := nowMs

def advance (desk : SendDesk) (task : PrivateSendTask)
    (input : PrivateSendInput) : SendDesk × PrivateSendTask :=
  match task with
  | .opening call =>
      (desk, match desk.openSend call with
        | .ok send => .encrypting send
        | .error error => .failed error none)
  | .encrypting send =>
      (desk, match input.encrypted with
        | .ok ciphertext => .persisting send ciphertext
        | .error error => .failed error none)
  | .persisting send ciphertext => (desk, .recording send ciphertext)
  | .recording send ciphertext =>
      let appended := desk.append send.place input.written
        (.encode send.place.userId input.encryptAtRest
          (archived send input.nowMs))
      (appended.1, .marking send ciphertext appended.2)
  | .marking send ciphertext number =>
      (desk.markGroup send.place, .handing send ciphertext number)
  | .handing send ciphertext number =>
      desk.hand send ciphertext number input.messageId
  | .sent _ | .failed _ _ => (desk, task)

def machine :
    Tasks.Machine SendDesk PrivateSendCall PrivateSendTask
      PrivateSendInput where
  enter := .opening
  advance := advance

abbrev Pool := Tasks.Pool SendDesk PrivateSendTask

inductive Event where
  | send (event : Tasks.Event PrivateSendCall PrivateSendInput)
  | around (event : Around)

def step (pool : Pool) : Event → Pool
  | .send event => machine.step pool event
  | .around event => { pool with shared := pool.shared.around event }

end SendDesk

namespace SendDesk

/-- Somewhere there is a copy of the record. -/
def Has (desk : SendDesk) (number : ℕ) : Prop :=
  (∃ place, ∃ records ∈ desk.logs place, number ∈ numbers records) ∨
    (∃ name, ∃ messages ∈ desk.vault name, number ∈ numbers messages) ∨
    (∃ copy ∈ desk.uploads, number ∈ numbers copy.messages) ∨
    ∃ copy ∈ desk.restores, number ∈ numbers copy.messages

/-- Every copy is of something that was there before, or of a record that is
new. -/
structure Grows (before after : SendDesk) : Prop where
  records : before.records ≤ after.records
  found : ∀ number, after.Has number → before.Has number ∨
    (before.records ≤ number ∧ number < after.records)

section Grows

variable {desk : SendDesk}

private theorem exists_mem_update {Key Item : Type} [DecidableEq Key]
    {lists : Key → Option (List (Numbered Item))} {key : Key}
    {items : List (Numbered Item)} {number : ℕ}
    (found : ∃ other,
      ∃ list ∈ Function.update lists key (some items) other,
        number ∈ numbers list) :
    number ∈ numbers items ∨
      ∃ other, ∃ list ∈ lists other, number ∈ numbers list := by
  obtain ⟨other, list, here, member⟩ := found
  by_cases same : other = key
  · rw [same, Function.update_self] at here
    cases here
    exact .inl member
  · rw [Function.update_of_ne same] at here
    exact .inr ⟨other, list, here, member⟩

private theorem grows_of_has {after : SendDesk}
    (records : desk.records = after.records)
    (found : ∀ number, after.Has number → desk.Has number) :
    desk.Grows after where
  records := Nat.le_of_eq records
  found number has := .inl (found number has)

private theorem grows_refl : desk.Grows desk :=
  grows_of_has rfl fun _ has => has

private theorem has_of_log {place : LogPlace} {number : ℕ}
    (member : number ∈ numbers ((desk.logs place).getD [])) :
    desk.Has number := by
  cases found : desk.logs place with
  | none =>
      rw [found] at member
      cases member
  | some records =>
      rw [found] at member
      exact .inl ⟨place, records, found, member⟩

private theorem grows_append (place : LogPlace) (written : Bool)
    (record : LogRecord) :
    desk.Grows (desk.append place written record).1 := by
  cases written with
  | false => exact grows_refl
  | true =>
      refine ⟨Nat.le_succ _, ?_⟩
      intro number has
      rcases has with inLog | elsewhere
      · rcases exists_mem_update inLog with member | old
        · rw [numbers, List.map_append, List.mem_append] at member
          rcases member with old | new
          · exact .inl (has_of_log old)
          · rw [List.map_singleton, List.mem_singleton] at new
            exact .inr ⟨Nat.le_of_eq new.symm, Nat.lt_succ_of_le
              (Nat.le_of_eq new)⟩
        · exact .inl (.inl old)
      · exact .inl (.inr elsewhere)

private theorem append_number {place : LogPlace} {written : Bool}
    {record : LogRecord} {number : ℕ}
    (drawn : (desk.append place written record).2 = some number) :
    desk.records ≤ number ∧
      number < (desk.append place written record).1.records := by
  cases written with
  | false => cases drawn
  | true =>
      cases drawn
      exact ⟨Nat.le_refl _, Nat.lt_succ_self _⟩

private theorem grows_markGroup (place : LogPlace) :
    desk.Grows (desk.markGroup place) := by
  unfold markGroup
  split
  · exact grows_refl
  · exact grows_of_has rfl fun _ has => has

private theorem grows_flush (device : ℕ) : desk.Grows (desk.flush device) := by
  unfold flush
  split
  · exact grows_of_has rfl fun _ has => has
  · exact grows_refl

private theorem numbers_load {opens : ℕ → Bool}
    {log : List (Numbered LogRecord)}
    {number : ℕ} (member : number ∈ numbers (load opens log)) :
    number ∈ numbers log := by
  obtain ⟨message, loaded, rfl⟩ := List.mem_map.mp member
  obtain ⟨record, inside, decoded⟩ := List.mem_filterMap.mp loaded
  obtain ⟨_, _, rfl⟩ := Option.map_eq_some_iff.mp decoded
  exact List.mem_map.mpr ⟨record, inside, rfl⟩

private theorem grows_upload (place : LogPlace) (opens : ℕ → Bool) :
    desk.Grows (desk.upload place opens) := by
  unfold upload
  split
  · refine grows_of_has rfl ?_
    rintro number (inLog | inVault | ⟨copy, underway, member⟩ | restoring)
    · exact .inl inLog
    · exact .inr (.inl inVault)
    · dsimp only at underway
      split at underway
      · exact .inr (.inr (.inl ⟨copy, underway, member⟩))
      · rcases List.mem_cons.mp underway with rfl | old
        · exact has_of_log (numbers_load member)
        · exact .inr (.inr (.inl ⟨copy, old, member⟩))
    · exact .inr (.inr (.inr restoring))
  · exact grows_refl

private theorem grows_put (copy : ArchiveCopy) (reaches : Bool) :
    desk.Grows (desk.put copy reaches) := by
  unfold put
  split
  · rename_i underway
    refine grows_of_has rfl ?_
    rintro number (inLog | inVault | ⟨other, left, member⟩ | restoring)
    · exact .inl inLog
    · cases reaches with
      | false => exact .inr (.inl inVault)
      | true =>
          rcases exists_mem_update inVault with member | old
          · exact .inr (.inr (.inl ⟨copy, underway, member⟩))
          · exact .inr (.inl old)
    · exact .inr (.inr (.inl ⟨other, List.mem_of_mem_erase left, member⟩))
    · exact .inr (.inr (.inr restoring))
  · exact grows_refl

private theorem grows_restoreRead (place : LogPlace) (reads : Bool) :
    desk.Grows (desk.restoreRead place reads) := by
  unfold restoreRead
  split
  · rename_i messages _ found
    split
    · refine grows_of_has rfl ?_
      rintro number (inLog | inVault | uploading | ⟨copy, underway, member⟩)
      · exact .inl inLog
      · exact .inr (.inl inVault)
      · exact .inr (.inr (.inl uploading))
      · rcases List.mem_cons.mp underway with rfl | old
        · exact .inr (.inl ⟨place.vault, messages, found, member⟩)
        · exact .inr (.inr (.inr ⟨copy, old, member⟩))
    · exact grows_refl
  · exact grows_refl

private theorem grows_restoreWrite (copy : ArchiveCopy) (encryptAtRest : Bool)
    (write : FileWrite String) :
    desk.Grows (desk.restoreWrite copy encryptAtRest write) := by
  unfold restoreWrite
  split
  · rename_i underway
    refine grows_of_has rfl ?_
    rintro number (inLog | inVault | uploading | ⟨other, left, member⟩)
    · cases write with
      | done =>
          rcases exists_mem_update inLog with member | old
          · rw [numbers, List.map_map] at member
            exact .inr (.inr (.inr ⟨copy, underway, member⟩))
          · exact .inl old
      | torn cause size =>
          rcases exists_mem_update inLog with member | old
          · have whole := List.map_subset _ (List.take_subset size _) member
            rw [List.map_map] at whole
            exact .inr (.inr (.inr ⟨copy, underway, whole⟩))
          · exact .inl old
      | unopened cause =>
          simp only [FileWrite.leaves, Function.update_eq_self] at inLog
          exact .inl inLog
    · exact .inr (.inl inVault)
    · exact .inr (.inr (.inl uploading))
    · exact .inr (.inr (.inr ⟨other, List.mem_of_mem_erase left, member⟩))
  · exact grows_refl

private theorem grows_around (event : Around) :
    desk.Grows (desk.around event) := by
  cases event with
  | activate device session => exact grows_of_has rfl fun _ has => has
  | close stream => exact grows_of_has rfl fun _ has => has
  | take stream => exact grows_of_has rfl fun _ has => has
  | receive place message encryptAtRest written =>
      exact grows_append place written _
  | mark place => exact grows_markGroup place
  | flush device => exact grows_flush device
  | upload place opens => exact grows_upload place opens
  | put copy reaches => exact grows_put copy reaches
  | restoreRead place reads => exact grows_restoreRead place reads
  | restoreWrite copy encryptAtRest write =>
      exact grows_restoreWrite copy encryptAtRest write

end Grows

/-- No send that has failed has a record left anywhere. -/
def NoTrace (pool : Pool) : Prop :=
  ∀ task ∈ pool.tasks, ∀ number ∈ task.failure, ¬pool.shared.Has number

/-- A message is handed to a stream that is open, or there is no record of
it. -/
def HandsOpen (pool : Pool) : Event → Prop
  | .send (.turn index _) => ∀ task ∈ pool.tasks[index]?,
      ∀ handed ∈ task.handed, handed.1 ∈ pool.shared.closed →
        ¬pool.shared.Has handed.2
  | _ => True

/-- Records have numbers that have been drawn. -/
def Drawn (desk : SendDesk) : Prop :=
  ∀ number, desk.Has number → number < desk.records

structure Good (desk : SendDesk) (task : PrivateSendTask) : Prop where
  number : ∀ number ∈ task.number, number < desk.records
  noTrace : ∀ number ∈ task.failure, ¬desk.Has number

abbrev Sound (pool : Pool) : Prop := pool.Suits Drawn Good

section Steps

variable {desk : SendDesk} {pool : Pool}

private theorem Grows.not_has {after : SendDesk} (grows : desk.Grows after)
    {number : ℕ} (old : number < desk.records)
    (absent : ¬desk.Has number) : ¬after.Has number := by
  intro has
  rcases grows.found number has with before | new
  · exact absent before
  · exact absurd old (Nat.not_lt.mpr new.1)

theorem Grows.drawn {after : SendDesk} (grows : desk.Grows after)
    (drawn : Drawn desk) : Drawn after := by
  intro number has
  rcases grows.found number has with before | new
  · exact (drawn number before).trans_le grows.records
  · exact new.2

private theorem number_of_failure {task : PrivateSendTask} {number : ℕ}
    (failed : number ∈ task.failure) : number ∈ task.number := by
  cases task <;> first | exact failed | cases failed

theorem Grows.good {after : SendDesk} (grows : desk.Grows after)
    {task : PrivateSendTask} (good : Good desk task) : Good after task where
  number number here := (good.number number here).trans_le grows.records
  noTrace number failed := grows.not_has
    (good.number number (number_of_failure failed))
    (good.noTrace number failed)

/-- What a turn of a send does: it has a new record or the one it had, and it
fails with a record only at a closed stream. -/
structure Moves (desk : SendDesk) (task : PrivateSendTask)
    (outcome : SendDesk × PrivateSendTask) : Prop where
  grows : desk.Grows outcome.1
  number : ∀ number ∈ outcome.2.number, number ∈ task.number ∨
    number < outcome.1.records
  failure : ∀ number ∈ outcome.2.failure, number ∈ task.failure ∨
    ∃ handed ∈ task.handed, handed.1 ∈ desk.closed ∧ handed.2 = number

private theorem moves_stay {task next : PrivateSendTask}
    (number : next.number = none) (failure : next.failure = none) :
    Moves desk task (desk, next) where
  grows := grows_refl
  number found here := by
    rw [number] at here
    cases here
  failure found here := by
    rw [failure] at here
    cases here

private theorem hand_of_closed {send : OpenSend}
    (closed : send.stream ∈ desk.closed)
    (ciphertext : Bytes) (number : Option ℕ) (messageId : Uuid) :
    desk.hand send ciphertext number messageId =
      (desk, .failed "stream closed" number) := if_pos closed

private theorem moves_hand (send : OpenSend) (ciphertext : Bytes)
    (number : Option ℕ) (messageId : Uuid) :
    Moves desk (.handing send ciphertext number)
      (desk.hand send ciphertext number messageId) := by
  unfold hand
  split
  · rename_i closed
    refine ⟨grows_refl, fun _ here => .inl here, ?_⟩
    rintro found here
    obtain rfl : number = some found := here
    exact .inr ⟨_, rfl, closed, rfl⟩
  · split
    · exact ⟨grows_of_has rfl fun _ has => has, fun _ here => .inl here,
        nofun⟩
    · exact ⟨grows_refl, fun _ here => .inl here, nofun⟩

theorem moves_advance (task : PrivateSendTask) (input : PrivateSendInput) :
    Moves desk task (desk.advance task input) := by
  cases task with
  | opening call =>
      simp only [advance]
      cases desk.openSend call with
      | ok send => exact moves_stay rfl rfl
      | error error => exact moves_stay rfl rfl
  | encrypting send =>
      simp only [advance]
      cases input.encrypted with
      | ok ciphertext => exact moves_stay rfl rfl
      | error error => exact moves_stay rfl rfl
  | persisting send ciphertext => exact moves_stay rfl rfl
  | recording send ciphertext =>
      exact ⟨grows_append _ _ _,
        fun _ drawn => .inr (append_number drawn).2, nofun⟩
  | marking send ciphertext number =>
      exact ⟨grows_markGroup _, fun _ here => .inl here, nofun⟩
  | handing send ciphertext number => exact moves_hand send ciphertext _ _
  | sent number =>
      exact ⟨grows_refl, fun _ here => .inl here, nofun⟩
  | failed error number =>
      exact ⟨grows_refl, fun _ here => .inl here, fun _ here => .inl here⟩

private theorem number_of_handed {task : PrivateSendTask} {handed : ℕ × ℕ}
    (found : handed ∈ task.handed) : handed.2 ∈ task.number := by
  unfold PrivateSendTask.handed at found
  split at found
  · cases found
    rfl
  · cases found

private theorem serves_advance {task : PrivateSendTask} (drawn : Drawn desk)
    (good : Good desk task) (input : PrivateSendInput)
    (opened : ∀ handed ∈ task.handed, handed.1 ∈ desk.closed →
      ¬desk.Has handed.2) :
    machine.Serves Drawn Good desk task input := by
  have moves : Moves desk task (desk.advance task input) :=
    moves_advance task input
  refine ⟨moves.grows.drawn drawn, ⟨?_, ?_⟩, fun _ => moves.grows.good⟩
  · intro number here
    rcases moves.number number here with old | new
    · exact (good.number number old).trans_le moves.grows.records
    · exact new
  · intro number failed
    rcases moves.failure number failed with old | handed
    · exact (moves.grows.good good).noTrace number old
    · obtain ⟨handed, next, closed, rfl⟩ := handed
      exact moves.grows.not_has
        (good.number handed.2 (number_of_handed next))
        (opened handed next closed)

theorem Sound.step (sound : Sound pool) {event : Event}
    (opened : HandsOpen pool event) : Sound (step pool event) := by
  cases event with
  | around event =>
      have grows : pool.shared.Grows (pool.shared.around event) :=
        grows_around event
      exact ⟨grows.drawn sound.shared,
        fun task member => grows.good (sound.tasks task member)⟩
  | send event =>
      apply Tasks.Pool.Suits.step sound
      · intro call _
        exact ⟨nofun, nofun⟩
      · rintro index task input rfl found good
        exact serves_advance sound.shared good input (opened task found)

private theorem not_noTrace_of_not_handsOpen {event : Event}
    (late : ¬HandsOpen pool event) : ¬NoTrace (step pool event) := by
  intro noTrace
  apply late
  cases event with
  | around event => trivial
  | send event =>
      cases event with
      | start call => trivial
      | turn index input =>
          intro task found handed next closed
          change NoTrace (machine.step pool (.turn index input)) at noTrace
          rw [Tasks.Machine.step_turn found] at noTrace
          have own := noTrace _ (List.mem_of_getElem?
            (Tasks.Machine.turned_found found input))
          unfold PrivateSendTask.handed at next
          split at next
          · cases next
            simp only [machine, Tasks.Machine.turned,
              Tasks.Pool.settle_shared, advance, hand_of_closed closed] at own
            exact own _ rfl
          · cases next

end Steps

/-- Failed sends leave nothing behind throughout exactly the runs in which a
message that has a record is handed to a stream that is still open. -/
theorem noTrace_iff (desk : SendDesk)
    (drawn : ∀ number, desk.Has number → number < desk.records)
    (events : List Event) :
    EventRun.Always step NoTrace ⟨desk, []⟩ events ↔
      EventRun.Each step HandsOpen ⟨desk, []⟩ events := by
  have initially : Sound ⟨desk, []⟩ := ⟨drawn, nofun⟩
  apply EventRun.always_iff_each_of _ _ _ initially
  · intro pool sound task member
    exact (sound.tasks task member).noTrace
  · intro pool event sound opened
    exact sound.step opened
  · intro pool event _ late
    exact not_noTrace_of_not_handsOpen late

/-- No message that has a record comes to a closed stream. -/
def StreamOpen (pool : Pool) : Event → Prop
  | .send (.turn index _) => ∀ task ∈ pool.tasks[index]?,
      ∀ handed ∈ task.handed, handed.1 ∉ pool.shared.closed
  | _ => True

instance (pool : Pool) (event : Event) : Decidable (StreamOpen pool event) :=
  match event with
  | .send (.turn index _) =>
      inferInstanceAs (Decidable (∀ task ∈ pool.tasks[index]?,
        ∀ handed ∈ task.handed, handed.1 ∉ pool.shared.closed))
  | .send (.start _) | .around _ => inferInstanceAs (Decidable True)

private theorem handsOpen_of_streamOpen {pool : Pool} {event : Event}
    (opened : StreamOpen pool event) : HandsOpen pool event := by
  cases event with
  | around event => trivial
  | send event =>
      cases event with
      | start call => trivial
      | turn index input =>
          intro task found handed next closed
          exact absurd closed (opened task found handed next)

def home : LogPlace := ⟨0, "me", "g"⟩

def connected : Event :=
  .around (.activate 0 (some ⟨true, some 7, some "me"⟩))

def turns (index count : ℕ) : List Event :=
  List.replicate count (.send (.turn index {}))

def archive (number : ℕ) : Numbered ArchivedMessage :=
  ⟨number, ⟨"g", "me", "hi", 0⟩⟩

/-- What was archived is uploaded while the message waits. -/
def uploaded : List Event :=
  [.around (.flush 0), .around (.upload home fun _ => true),
    .around (.put ⟨home, [archive 0]⟩ true)]

/-- One message is sent; another one cannot be encrypted, and a third finds no
stream any more. -/
def sentOnce : List Event :=
  connected :: .send (.start ⟨0, "g", "hi"⟩) :: turns 0 5 ++ uploaded ++
    turns 0 1 ++ .send (.start ⟨0, "g", "two"⟩) :: turns 1 1 ++
    .send (.turn 1 { encrypted := .error "no such group" }) ::
    .around (.close 7) :: .around (.activate 0 (some ⟨true, none, none⟩)) ::
    .send (.start ⟨0, "g", "three"⟩) :: turns 2 1

theorem sentOnce_noTrace :
    EventRun.Always step NoTrace ⟨{}, []⟩ sentOnce := by
  have opened : EventRun.Each step StreamOpen ⟨{}, []⟩ sentOnce := by
    decide +kernel
  refine (noTrace_iff {} ?_ sentOnce).mpr
    (opened.imp fun _ _ => handsOpen_of_streamOpen)
  rintro number (⟨_, _, ⟨⟩, _⟩ | ⟨_, _, ⟨⟩, _⟩ | ⟨_, ⟨⟩, _⟩ | ⟨_, ⟨⟩, _⟩)

/-- The stream is closed after the message was archived and uploaded. -/
def closedLate : List Event :=
  connected :: .send (.start ⟨0, "g", "hi"⟩) :: turns 0 5 ++ uploaded ++
    .around (.close 7) :: turns 0 1

theorem closedLate_traced :
    ¬EventRun.Always step NoTrace ⟨{}, []⟩ closedLate := by
  intro always
  have tasks : (EventRun.run step ⟨{}, []⟩ closedLate).tasks =
      [.failed "stream closed" (some 0)] := by
    decide +kernel
  have stored : (EventRun.run step ⟨{}, []⟩ closedLate).shared.vault
      ("me", "g") = some [archive 0] := by
    decide +kernel
  refine always.last _ (by rw [tasks]; exact List.mem_cons_self) 0 rfl ?_
  exact .inr (.inl ⟨_, _, stored, List.mem_cons_self⟩)

end SendDesk

end Accord
