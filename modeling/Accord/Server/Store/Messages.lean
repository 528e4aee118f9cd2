import Accord.Server.Store.Groups

/-! Stored messages, public and private. -/

namespace Accord

namespace Store

def i64Max : ℕ := 2 ^ 63 - 1

def lastSeqOf (rows : List PrivateMessageRow) : ℕ :=
  rows.foldr (fun row last => max row.seq last) 0

/-- The largest sequence number handed out; no row is deleted here. -/
def lastSeq (store : Store) : ℕ := lastSeqOf store.privateMessages

def findPrivateMessage (store : Store) (groupId clientMessageId : Uuid) :
    Option PrivateMessageRow :=
  store.privateMessages.find? fun row =>
    row.groupId == groupId && row.clientMessageId == clientMessageId

/-- `AUTOINCREMENT` hands out a number above all earlier ones, and refuses to
go beyond the largest `i64`. -/
def handsOut (seq : ℕ) (store : Store) : Bool :=
  store.lastSeq < seq && seq ≤ i64Max

def acceptsPrivateMessage (row : PrivateMessageRow) (store : Store) : Bool :=
  store.referencesHold (store.hasGroup row.groupId &&
    store.hasUser row.senderId && store.hasDevice row.senderDeviceId)

def insertPrivateMessage (row : PrivateMessageRow) :
    Effect Store ServerError PrivateMessageRow := do
  Effect.check (acceptsPrivateMessage row) violation
  Effect.check (handsOut row.seq) (.database "database or disk is full")
  Effect.update fun store =>
    { store with privateMessages := store.privateMessages ++ [row] }
  return row

/-- A message sent again under the same client id keeps the number and the
time of the stored one; the rest of the returned row is what was sent. -/
def storePrivateMessage (draw : RowDraw)
    (groupId senderId senderDeviceId : Uuid) (ciphertext : Bytes)
    (epoch : UInt64) (clientMessageId : Uuid) :
    Effect Store ServerError PrivateMessageRow := do
  let row : PrivateMessageRow := {
    id := draw.id
    groupId, senderId, senderDeviceId, ciphertext, epoch, clientMessageId
    seq := draw.seq, createdAt := draw.now }
  match ← Effect.read (·.findPrivateMessage groupId clientMessageId) with
  | some stored =>
      return { row with seq := stored.seq, createdAt := stored.createdAt }
  | none => insertPrivateMessage row

def findPublicMessage (store : Store) (groupId clientMessageId : Uuid) :
    Option PublicMessageRow :=
  store.publicMessages.find? fun row =>
    row.groupId == groupId && row.clientMessageId == clientMessageId

def displayName (store : Store) (userId : Uuid) : Option String :=
  (store.users.find? (·.id == userId)).map (·.displayName)

def acceptsPublicMessage (row : PublicMessageRow) (store : Store) : Bool :=
  store.referencesHold (store.hasGroup row.groupId &&
    store.hasUser row.senderId)

def handsOutPublic (seq : ℕ) (store : Store) : Bool :=
  store.publicMessages.all (·.seq < seq) && seq ≤ i64Max

/-- `INSERT … ON CONFLICT … RETURNING`: the row that is in the table after the
statement, which on a conflict is the one that was there before. -/
def keepPublicMessage (row : PublicMessageRow) :
    Effect Store ServerError PublicMessageRow := do
  match ← Effect.read (·.findPublicMessage row.groupId row.clientMessageId) with
  | some stored => return stored
  | none =>
      Effect.check (acceptsPublicMessage row) violation
      Effect.check (handsOutPublic row.seq)
        (.database "database or disk is full")
      Effect.update fun store =>
        { store with publicMessages := store.publicMessages ++ [row] }
      return row

/-- A message as it is returned, with the name of its sender. -/
structure PublicMessage where
  row : PublicMessageRow
  senderDisplayName : String
  deriving DecidableEq

def sentMessage (draw : RowDraw) (groupId senderId : Uuid) (content : String)
    (clientMessageId : Uuid) : PublicMessageRow where
  id := draw.id
  groupId
  senderId
  content
  clientMessageId
  seq := draw.seq
  createdAt := draw.now

def senderName (senderId : Uuid) : Effect Store ServerError String :=
  Effect.require (·.displayName senderId) (.database "no rows returned")

/-- Only the number and the time of what is returned come from the table. -/
def insertPublicMessage (draw : RowDraw) (groupId senderId : Uuid)
    (content : String) (clientMessageId : Uuid) :
    Effect Store ServerError PublicMessage := do
  let sent := sentMessage draw groupId senderId content clientMessageId
  let stored ← keepPublicMessage sent
  let name ← senderName senderId
  return ⟨{ sent with seq := stored.seq, createdAt := stored.createdAt }, name⟩

def upperSeq (beforeSeq : Int) : Int :=
  if beforeSeq ≤ 0 then i64Max else beforeSeq

/-- The newest messages below a number, newest first. -/
def fetchPublicHistory (store : Store) (groupId : Uuid) (beforeSeq : Int)
    (limit : ℕ) : List PublicMessage :=
  let rows := store.publicMessages.filter fun row =>
    row.groupId == groupId && row.seq < upperSeq beforeSeq
  ((rows.mergeSort fun first second => second.seq ≤ first.seq).filterMap
    fun row => (store.displayName row.senderId).map (⟨row, ·⟩)).take limit

def fetchPrivateHistory (store : Store) (groupId : Uuid) (beforeSeq : Int)
    (limit : ℕ) : List PrivateMessageRow :=
  let rows := store.privateMessages.filter fun row =>
    row.groupId == groupId && row.seq < upperSeq beforeSeq
  (rows.mergeSort fun first second => second.seq ≤ first.seq).take limit

theorem lastSeqOf_append (rows : List PrivateMessageRow)
    (row : PrivateMessageRow) :
    lastSeqOf (rows ++ [row]) = max (lastSeqOf rows) row.seq := by
  induction rows with
  | nil => simp [lastSeqOf]
  | cons first rest induction =>
      change max first.seq (lastSeqOf (rest ++ [row])) =
        max (max first.seq (lastSeqOf rest)) row.seq
      rw [induction, max_assoc]

/-- An insertion fails and changes nothing, or hands out a new number. -/
theorem insertPrivateMessage_cases (row : PrivateMessageRow)
    (store : Store) :
    (∃ error, insertPrivateMessage row store = (.error error, store)) ∨
    (store.lastSeq < row.seq ∧ row.seq ≤ i64Max ∧
      insertPrivateMessage row store = (.ok row,
        { store with
          privateMessages := store.privateMessages ++ [row] })) := by
  unfold insertPrivateMessage
  cases references : acceptsPrivateMessage row store with
  | false =>
      rw [Effect.bind_of_error (Effect.check_of_false _ references _)]
      exact .inl ⟨_, rfl⟩
  | true =>
      rw [Effect.bind_of_ok (Effect.check_of_true _ references _)]
      cases room : handsOut row.seq store with
      | false =>
          rw [Effect.bind_of_error (Effect.check_of_false _ room _)]
          exact .inl ⟨_, rfl⟩
      | true =>
          rw [Effect.bind_of_ok (Effect.check_of_true _ room _)]
          simp only [handsOut, Bool.and_eq_true, decide_eq_true_eq] at room
          exact .inr ⟨room.1, room.2, rfl⟩

/-- The database accepts the row and has a number left for it. -/
def storesPrivateMessage (row : PrivateMessageRow) (store : Store) : Bool :=
  acceptsPrivateMessage row store && handsOut row.seq store

theorem insertPrivateMessage_of_accepted {row : PrivateMessageRow}
    {store : Store} (accepted : storesPrivateMessage row store = true) :
    insertPrivateMessage row store = (.ok row,
      { store with privateMessages := store.privateMessages ++ [row] }) := by
  simp only [storesPrivateMessage, Bool.and_eq_true] at accepted
  simp only [insertPrivateMessage, Effect.check_bind]
  rw [if_pos accepted.1, if_pos accepted.2]
  rfl

theorem insertPrivateMessage_of_refused {row : PrivateMessageRow}
    {store : Store} (refused : storesPrivateMessage row store = false) :
    ∃ error, insertPrivateMessage row store = (.error error, store) := by
  simp only [storesPrivateMessage, Bool.and_eq_false_iff] at refused
  simp only [insertPrivateMessage, Effect.check_bind]
  rcases refused with unreferenced | full
  · rw [unreferenced]
    exact ⟨_, rfl⟩
  · rw [full]
    split <;> exact ⟨_, rfl⟩

theorem storePrivateMessage_of_new {store : Store}
    {groupId clientMessageId : Uuid}
    (new : store.findPrivateMessage groupId clientMessageId = none)
    (draw : RowDraw) (senderId senderDeviceId : Uuid) (ciphertext : Bytes)
    (epoch : UInt64) :
    storePrivateMessage draw groupId senderId senderDeviceId ciphertext epoch
        clientMessageId store =
      insertPrivateMessage {
        id := draw.id
        groupId, senderId, senderDeviceId, ciphertext, epoch, clientMessageId
        seq := draw.seq, createdAt := draw.now } store := by
  have viewed : (Effect.read
      fun store : Store => store.findPrivateMessage groupId clientMessageId :
        Effect Store ServerError _) store = (.ok none, store) :=
    Effect.read_of_eq new
  unfold storePrivateMessage
  rw [Effect.bind_of_ok viewed]

section PublicMessages

variable {store : Store}

theorem keepPublicMessage_of_stored {row stored : PublicMessageRow}
    (found : store.findPublicMessage row.groupId row.clientMessageId =
      some stored) : keepPublicMessage row store = (.ok stored, store) := by
  have viewed : (Effect.read fun store : Store =>
      store.findPublicMessage row.groupId row.clientMessageId :
        Effect Store ServerError _) store = (.ok (some stored), store) :=
    Effect.read_of_eq found
  simp only [keepPublicMessage]
  rw [Effect.bind_of_ok viewed]
  rfl

/-- The database accepts the row and has a number left for it. -/
def storesPublicMessage (row : PublicMessageRow) (store : Store) : Bool :=
  acceptsPublicMessage row store && handsOutPublic row.seq store

theorem keepPublicMessage_of_accepted {row : PublicMessageRow}
    (new : store.findPublicMessage row.groupId row.clientMessageId = none)
    (accepted : storesPublicMessage row store = true) :
    keepPublicMessage row store = (.ok row,
      { store with publicMessages := store.publicMessages ++ [row] }) := by
  have viewed : (Effect.read fun store : Store =>
      store.findPublicMessage row.groupId row.clientMessageId :
        Effect Store ServerError _) store = (.ok none, store) :=
    Effect.read_of_eq new
  simp only [storesPublicMessage, Bool.and_eq_true] at accepted
  simp only [keepPublicMessage]
  rw [Effect.bind_of_ok viewed]
  simp only [Effect.check_bind]
  rw [if_pos accepted.1, if_pos accepted.2]
  rfl

theorem keepPublicMessage_of_refused {row : PublicMessageRow}
    (new : store.findPublicMessage row.groupId row.clientMessageId = none)
    (refused : storesPublicMessage row store = false) :
    ∃ cause, keepPublicMessage row store =
      (.error (.database cause), store) := by
  have viewed : (Effect.read fun store : Store =>
      store.findPublicMessage row.groupId row.clientMessageId :
        Effect Store ServerError _) store = (.ok none, store) :=
    Effect.read_of_eq new
  simp only [storesPublicMessage, Bool.and_eq_false_iff] at refused
  simp only [keepPublicMessage]
  rw [Effect.bind_of_ok viewed]
  simp only [Effect.check_bind]
  rcases refused with unreferenced | full
  · rw [unreferenced]
    exact ⟨_, rfl⟩
  · rw [full]
    split <;> exact ⟨_, rfl⟩

theorem keepPublicMessage_of_new (row : PublicMessageRow)
    (new : store.findPublicMessage row.groupId row.clientMessageId = none) :
    (∃ error, keepPublicMessage row store = (.error error, store)) ∨
      keepPublicMessage row store = (.ok row,
        { store with publicMessages := store.publicMessages ++ [row] }) := by
  cases accepted : storesPublicMessage row store with
  | true => exact .inr (keepPublicMessage_of_accepted new accepted)
  | false =>
      obtain ⟨cause, refused⟩ := keepPublicMessage_of_refused new accepted
      exact .inl ⟨_, refused⟩

theorem readOnly_senderName (senderId : Uuid) :
    (senderName senderId).ReadOnly :=
  Effect.readOnly_require _ _

theorem insertPublicMessage_store (draw : RowDraw)
    (groupId senderId : Uuid) (content : String) (clientMessageId : Uuid)
    (store : Store) :
    (insertPublicMessage draw groupId senderId content clientMessageId
        store).2 =
      (keepPublicMessage (sentMessage draw groupId senderId content
        clientMessageId) store).2 := by
  have same : (insertPublicMessage draw groupId senderId content
      clientMessageId).Post store fun _ after =>
        after = (keepPublicMessage (sentMessage draw groupId senderId content
          clientMessageId) store).2 := by
    have kept : (keepPublicMessage (sentMessage draw groupId senderId content
        clientMessageId)).Post store fun _ after =>
          after = (keepPublicMessage (sentMessage draw groupId senderId
            content clientMessageId) store).2 := rfl
    apply Effect.post_bind kept (fun _ _ holds => holds)
    intro stored after holds
    exact (readOnly_senderName senderId).post_bind (fun _ _ => holds)
      (fun _ _ => holds)
  exact same

end PublicMessages

end Store

end Accord
