import Accord.Library.EventRun
import Accord.Server.Store.Postgres
import Mathlib.Data.List.Nodup

/-! Sends under a client id that may have been used before.  Both databases
keep the first row; what they return is put together from that row and from
the arguments of the second send.  A public content with U+0000 is stored by
one of them only. -/

namespace Accord

inductive MessageSend where
  | pub (draw : RowDraw) (groupId senderId : Uuid) (content : String)
      (clientMessageId : Uuid)
  | priv (draw : RowDraw) (groupId senderId senderDeviceId : Uuid)
      (ciphertext : Bytes) (epoch : UInt64) (clientMessageId : Uuid)

namespace MessageSend

def step (store : Store) : MessageSend → Store
  | .pub draw groupId senderId content clientMessageId =>
      (Store.insertPublicMessage draw groupId senderId content clientMessageId
        store).2
  | .priv draw groupId senderId senderDeviceId ciphertext epoch
      clientMessageId =>
      (Store.storePrivateMessage draw groupId senderId senderDeviceId
        ciphertext epoch clientMessageId store).2

/-- A table has at most one row for each group and client id. -/
structure Keyed (store : Store) : Prop where
  pub : (store.publicMessages.map fun row =>
    (row.groupId, row.clientMessageId)).Nodup
  priv : (store.privateMessages.map fun row =>
    (row.groupId, row.clientMessageId)).Nodup

/-- Whatever is returned is the stored row, and both databases store the same
and return the same, the cause of a failure apart. -/
def Faithful (store : Store) (send : MessageSend) : Prop :=
  match send with
  | .pub draw groupId senderId content clientMessageId =>
      let sqlite := Store.insertPublicMessage draw groupId senderId content
        clientMessageId
      let postgres := Postgres.insertPublicMessage draw groupId senderId
        content clientMessageId
      (∀ message, (sqlite store).1 = .ok message →
        (sqlite store).2.findPublicMessage groupId clientMessageId =
          some message.row) ∧ orStatus postgres store = orStatus sqlite store
  | .priv draw groupId senderId senderDeviceId ciphertext epoch
      clientMessageId =>
      let sqlite := Store.storePrivateMessage draw groupId senderId
        senderDeviceId ciphertext epoch clientMessageId
      let postgres := Postgres.storePrivateMessage draw groupId senderId
        senderDeviceId ciphertext epoch clientMessageId
      (∀ row, (sqlite store).1 = .ok row →
        (sqlite store).2.findPrivateMessage groupId clientMessageId =
          some row) ∧ orStatus postgres store = orStatus sqlite store

/-- The client id is stored already, and the send will be answered. -/
def repeats (store : Store) : MessageSend → Bool
  | .pub _ groupId senderId _ clientMessageId =>
      (store.findPublicMessage groupId clientMessageId).isSome &&
        (store.displayName senderId).isSome
  | .priv _ groupId _ _ _ _ clientMessageId =>
      (store.findPrivateMessage groupId clientMessageId).isSome

/-- A content that Postgres refuses, in a row that SQLite stores. -/
def oneSided (store : Store) : MessageSend → Bool
  | .pub draw groupId senderId content clientMessageId =>
      !Postgres.takesText content &&
        (store.findPublicMessage groupId clientMessageId).isNone &&
        store.storesPublicMessage
          (Store.sentMessage draw groupId senderId content clientMessageId)
  | .priv .. => false

/-- The id drawn for a row is one that no row has. -/
def Fresh (store : Store) : MessageSend → Prop
  | .pub draw _ _ _ _ => ∀ row ∈ store.publicMessages, row.id ≠ draw.id
  | .priv draw _ _ _ _ _ _ => ∀ row ∈ store.privateMessages, row.id ≠ draw.id

end MessageSend

namespace Store

variable {store : Store}

private theorem findPublicMessage_append {row : PublicMessageRow}
    (new : store.findPublicMessage row.groupId row.clientMessageId = none) :
    ({ store with publicMessages := store.publicMessages ++ [row] } :
        Store).findPublicMessage row.groupId row.clientMessageId =
      some row := by
  simp only [findPublicMessage] at new ⊢
  rw [List.find?_append, new]
  simp

private theorem findPrivateMessage_append {row : PrivateMessageRow}
    (new : store.findPrivateMessage row.groupId row.clientMessageId = none) :
    ({ store with privateMessages := store.privateMessages ++ [row] } :
        Store).findPrivateMessage row.groupId row.clientMessageId =
      some row := by
  simp only [findPrivateMessage] at new ⊢
  rw [List.find?_append, new]
  simp

end Store

namespace MessageSend

open Store

variable {store : Store} {draw : RowDraw} {groupId senderId : Uuid}
  {content : String} {clientMessageId : Uuid}

theorem senderName_of_some {name : String}
    (known : store.displayName senderId = some name) :
    senderName senderId store = (.ok name, store) := by
  simp only [senderName, Effect.require, known]

private theorem senderName_of_none
    (unknown : store.displayName senderId = none) :
    senderName senderId store =
      (.error (.database "no rows returned"), store) := by
  simp only [senderName, Effect.require, unknown]

private theorem orStatus_of_database {Value : Type}
    {inner : Effect Store ServerError Value} {cause : String}
    (failed : inner store = (.error (.database cause), store)) :
    orStatus inner store =
      (.error ⟨.internal, "internal server error"⟩, store) :=
  orStatus_of_error failed

private theorem postgres_of_untaken
    (untaken : Postgres.takesText content = false) :
    Postgres.insertPublicMessage draw groupId senderId content
      clientMessageId store = (.error Postgres.invalidText, store) := by
  simp only [Postgres.insertPublicMessage, Effect.check_bind, untaken]
  rfl

private theorem faithful_pub_of_new
    (new : store.findPublicMessage groupId clientMessageId = none) :
    Faithful store (.pub draw groupId senderId content clientMessageId) ↔
      oneSided store (.pub draw groupId senderId content clientMessageId) =
        false := by
  have unstored : store.findPublicMessage
      (sentMessage draw groupId senderId content clientMessageId).groupId
      (sentMessage draw groupId senderId content
        clientMessageId).clientMessageId = none := new
  simp only [oneSided, new, Option.isNone_none, Bool.and_true]
  cases accepted : store.storesPublicMessage
      (sentMessage draw groupId senderId content clientMessageId) with
  | false =>
      obtain ⟨cause, refused⟩ :=
        keepPublicMessage_of_refused unstored accepted
      have sqlite : Store.insertPublicMessage draw groupId senderId content
          clientMessageId store = (.error (.database cause), store) :=
        Effect.bind_of_error refused _
      simp only [Faithful, sqlite, Bool.and_false, iff_true]
      refine ⟨by simp, ?_⟩
      rw [orStatus_of_database sqlite]
      cases taken : Postgres.takesText content with
      | false => exact orStatus_of_database (postgres_of_untaken taken)
      | true =>
          have postgres : Postgres.insertPublicMessage draw groupId senderId
              content clientMessageId store =
              (.error (.database cause), store) := by
            simp only [Postgres.insertPublicMessage, Effect.check_bind, taken]
            exact Effect.bind_of_error refused _
          exact orStatus_of_database postgres
  | true =>
      have stored := keepPublicMessage_of_accepted unstored accepted
      cases taken : Postgres.takesText content with
      | false =>
          simp only [Bool.not_false, Bool.and_true, Bool.true_eq_false,
            iff_false]
          rintro ⟨-, same⟩
          have kept := congrArg Prod.snd same
          rw [orStatus_of_database (postgres_of_untaken taken),
            orStatus_store, insertPublicMessage_store, stored] at kept
          have longer := congrArg (List.length ∘ Store.publicMessages) kept
          simp at longer
      | true =>
          simp only [Bool.not_true, Bool.false_and, iff_true, Faithful]
          refine ⟨?_, ?_⟩
          · intro message returned
            simp only [Store.insertPublicMessage] at returned ⊢
            rw [Effect.bind_of_ok stored] at returned ⊢
            have present := findPublicMessage_append unstored
            obtain ⟨name, after, named, rest⟩ := Effect.bind_ok returned
            have unchanged : after = _ :=
              (congrArg Prod.snd named).symm.trans
                (Effect.readOnly_require _ _ _)
            rw [Effect.bind_of_ok named, unchanged]
            cases rest
            exact present
          · apply orStatus_congr
            simp only [Postgres.insertPublicMessage,
              Store.insertPublicMessage, Effect.check_bind, taken, if_true]
            rw [Effect.bind_of_ok stored, Effect.bind_of_ok stored]

private theorem faithful_pub_of_stored {stored : PublicMessageRow}
    (found : store.findPublicMessage groupId clientMessageId = some stored)
    (fresh : stored.id ≠ draw.id) :
    Faithful store (.pub draw groupId senderId content clientMessageId) ↔
      store.displayName senderId = none := by
  have kept : keepPublicMessage
      (sentMessage draw groupId senderId content clientMessageId) store =
      (.ok stored, store) := keepPublicMessage_of_stored found
  cases known : store.displayName senderId with
  | none =>
      have unnamed := senderName_of_none known
      have sqlite : Store.insertPublicMessage draw groupId senderId content
          clientMessageId store =
          (.error (.database "no rows returned"), store) := by
        simp only [Store.insertPublicMessage]
        rw [Effect.bind_of_ok kept, Effect.bind_of_error unnamed]
      simp only [Faithful, sqlite, iff_true]
      refine ⟨by simp, ?_⟩
      rw [orStatus_of_database sqlite]
      cases taken : Postgres.takesText content with
      | false => exact orStatus_of_database (postgres_of_untaken taken)
      | true =>
          have postgres : Postgres.insertPublicMessage draw groupId senderId
              content clientMessageId store =
              (.error (.database "no rows returned"), store) := by
            simp only [Postgres.insertPublicMessage, Effect.check_bind, taken,
              if_true]
            rw [Effect.bind_of_ok kept, Effect.bind_of_error unnamed]
          exact orStatus_of_database postgres
  | some name =>
      simp only [Faithful, Store.insertPublicMessage, reduceCtorEq, iff_false]
      rw [Effect.bind_of_ok kept, Effect.bind_of_ok (senderName_of_some known)]
      intro faithful
      have same := faithful.1 _ rfl
      change store.findPublicMessage groupId clientMessageId = _ at same
      rw [found] at same
      exact absurd (congrArg PublicMessageRow.id (Option.some.inj same))
        fresh

section Private

variable {senderDeviceId : Uuid} {ciphertext : Bytes} {epoch : UInt64}

private theorem viewed_private {found : Option PrivateMessageRow}
    (view : store.findPrivateMessage groupId clientMessageId = found) :
    (Effect.read fun store : Store =>
      store.findPrivateMessage groupId clientMessageId :
        Effect Store ServerError _) store = (.ok found, store) :=
  Effect.read_of_eq view

private theorem faithful_priv_of_new
    (new : store.findPrivateMessage groupId clientMessageId = none) :
    Faithful store (.priv draw groupId senderId senderDeviceId ciphertext
      epoch clientMessageId) := by
  have same : Postgres.storePrivateMessage draw groupId senderId
      senderDeviceId ciphertext epoch clientMessageId store =
      Store.storePrivateMessage draw groupId senderId senderDeviceId
        ciphertext epoch clientMessageId store := by
    simp only [Store.storePrivateMessage, Postgres.storePrivateMessage]
    rw [Effect.bind_of_ok (viewed_private new),
      Effect.bind_of_ok (viewed_private new)]
  refine ⟨?_, orStatus_congr same⟩
  simp only [Store.storePrivateMessage]
  rw [Effect.bind_of_ok (viewed_private new)]
  intro row returned
  simp only at returned ⊢
  rcases insertPrivateMessage_cases {
      id := draw.id
      groupId, senderId, senderDeviceId, ciphertext, epoch, clientMessageId
      seq := draw.seq, createdAt := draw.now } store with
    ⟨error, refused⟩ | ⟨_, _, stored⟩
  · rw [refused] at returned
    cases returned
  · rw [stored] at returned ⊢
    cases returned
    exact findPrivateMessage_append new

private theorem not_faithful_priv_of_stored {stored : PrivateMessageRow}
    (found : store.findPrivateMessage groupId clientMessageId = some stored)
    (fresh : stored.id ≠ draw.id) :
    ¬ Faithful store (.priv draw groupId senderId senderDeviceId ciphertext
      epoch clientMessageId) := by
  simp only [Faithful, Store.storePrivateMessage]
  rw [Effect.bind_of_ok (viewed_private found)]
  intro faithful
  have same := faithful.1 _ rfl
  change store.findPrivateMessage groupId clientMessageId = _ at same
  rw [found] at same
  exact fresh (congrArg PrivateMessageRow.id (Option.some.inj same))

end Private

/-- A send is answered truthfully exactly if its client id is new and either
both databases take its content or none stores it. -/
private theorem faithful_iff_not_repeats (store : Store) (send : MessageSend)
    (fresh : send.Fresh store) :
    send.Faithful store ↔
      send.repeats store = false ∧ send.oneSided store = false := by
  cases send with
  | pub draw groupId senderId content clientMessageId =>
      cases found : store.findPublicMessage groupId clientMessageId with
      | none =>
          rw [faithful_pub_of_new found]
          simp [repeats, found]
      | some stored =>
          rw [faithful_pub_of_stored found
            (fresh stored (List.mem_of_find?_eq_some found))]
          simp [repeats, oneSided, found]
  | priv draw groupId senderId senderDeviceId ciphertext epoch
      clientMessageId =>
      simp only [repeats, oneSided, and_true]
      cases found : store.findPrivateMessage groupId clientMessageId with
      | none => simpa using faithful_priv_of_new found
      | some stored =>
          simpa using not_faithful_priv_of_stored found
            (fresh stored (List.mem_of_find?_eq_some found))

/-! One row for each client id, whatever is sent. -/

section Keyed

private theorem nodup_append_new {Row Key : Type} [DecidableEq Key]
    {rows : List Row}
    {key : Row → Key} (unique : (rows.map key).Nodup) {row : Row}
    (new : ∀ other ∈ rows, key other ≠ key row) :
    ((rows ++ [row]).map key).Nodup := by
  rw [List.map_append, List.map_cons, List.map_nil, List.nodup_append_comm]
  apply List.nodup_cons.mpr
  refine ⟨?_, unique⟩
  intro listed
  obtain ⟨other, member, same⟩ := List.mem_map.mp listed
  exact new other member same

private theorem key_ne_of_unfound {Row : Type} {rows : List Row}
    {group client : Row → Uuid} {groupId clientMessageId : Uuid}
    (new : rows.find? (fun row =>
      group row == groupId && client row == clientMessageId) = none) :
    ∀ row ∈ rows, (group row, client row) ≠ (groupId, clientMessageId) := by
  intro row member same
  rw [List.find?_eq_none] at new
  apply new row member
  simpa using Prod.mk.inj same

private theorem step_keyed (store : Store) (send : MessageSend)
    (keyed : Keyed store) : Keyed (send.step store) := by
  cases send with
  | pub draw groupId senderId content clientMessageId =>
      have kept : (Store.insertPublicMessage draw groupId senderId content
          clientMessageId).Post store fun _ after => Keyed after := by
        have statement : (keepPublicMessage (sentMessage draw groupId
            senderId content clientMessageId)).Post store
            fun _ after => Keyed after := by
          simp only [Effect.Post]
          cases found :
              store.findPublicMessage groupId clientMessageId with
          | some stored =>
              rw [keepPublicMessage_of_stored found]
              exact keyed
          | none =>
              rcases keepPublicMessage_of_new (sentMessage draw groupId
                senderId content clientMessageId) found with
                ⟨error, refused⟩ | stored
              · rw [refused]
                exact keyed
              · rw [stored]
                exact ⟨nodup_append_new keyed.pub (key_ne_of_unfound found),
                  keyed.priv⟩
        apply Effect.post_bind statement (fun _ _ holds => holds)
        intro stored after holds
        exact (Effect.readOnly_require _ _).post_bind (fun _ _ => holds)
          (fun _ _ => holds)
      exact kept
  | priv draw groupId senderId senderDeviceId ciphertext epoch
      clientMessageId =>
      simp only [step, Store.storePrivateMessage]
      cases found : store.findPrivateMessage groupId clientMessageId with
      | some stored =>
          rw [Effect.bind_of_ok (viewed_private found)]
          exact keyed
      | none =>
          rw [Effect.bind_of_ok (viewed_private found)]
          simp only
          rcases insertPrivateMessage_cases {
              id := draw.id
              groupId, senderId, senderDeviceId, ciphertext, epoch
              clientMessageId, seq := draw.seq, createdAt := draw.now }
              store with ⟨error, refused⟩ | ⟨_, _, stored⟩
          · rw [refused]
            exact keyed
          · rw [stored]
            exact ⟨keyed.pub,
              nodup_append_new keyed.priv (key_ne_of_unfound found)⟩

end Keyed

/-- Rows stay unique, and every answer is the stored row, the same from both
databases. -/
def Idempotent (store : Store) (sends : List MessageSend) : Prop :=
  EventRun.Always step Keyed store sends ∧
    EventRun.Each step Faithful store sends

/-- Sends are idempotent exactly in the runs that repeat no client id and send
no content that one database refuses and the other stores. -/
theorem idempotent_iff_unrepeated (store : Store) (keyed : Keyed store)
    (sends : List MessageSend)
    (fresh : EventRun.Each step Fresh store sends) :
    Idempotent store sends ↔
      EventRun.Each step (fun store send =>
        send.repeats store = false ∧ send.oneSided store = false)
        store sends := by
  have unique := EventRun.always_of_kept step_keyed keyed sends
  have agree := fresh.congr faithful_iff_not_repeats
  constructor
  · intro idempotent
    exact agree.mp idempotent.2
  · intro unrepeated
    exact ⟨unique, agree.mpr unrepeated⟩

def chatStore : Store where
  users := [⟨1, "ada", "Ada", "", true, false, none, ""⟩,
    ⟨2, "bob", "Bob", "", false, false, none, ""⟩]
  devices := [⟨10, 1, "desk", none⟩]
  groups := [⟨7, "general", "", .pub, .text, "", 0⟩]

private theorem keyed_chatStore : Keyed chatStore := ⟨by decide, by decide⟩

def twoSends : List MessageSend := [
  .pub ⟨900, 1, 1500⟩ 7 1 "hello" 77,
  .priv ⟨901, 1, 1600⟩ 7 1 10 [1, 2] 0 78]

theorem twoSends_idempotent : Idempotent chatStore twoSends := by
  have fresh : EventRun.Each step Fresh chatStore twoSends := by
    refine ⟨?_, ?_, trivial⟩
    · rintro row ⟨⟩
    · rintro row ⟨⟩
  exact (idempotent_iff_unrepeated chatStore keyed_chatStore twoSends
    fresh).mpr (by decide)

/-- A second user sends something else under the same client id, and is
answered as if it had been stored. -/
theorem repeated_send_diverges :
    ¬ Idempotent chatStore [
      .pub ⟨900, 1, 1500⟩ 7 1 "hello" 77,
      .pub ⟨901, 2, 1600⟩ 7 2 "goodbye" 77] := by
  rintro ⟨_, _, faithful, _⟩
  have same := faithful.1
    ⟨⟨901, 7, 2, "goodbye", 77, 1, 1500⟩, "Bob"⟩ (by decide)
  exact absurd same (by decide)

end MessageSend

end Accord
