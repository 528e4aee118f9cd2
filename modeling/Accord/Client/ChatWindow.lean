import Accord.Client.ChatView

/-! What the window shows.  Every message of the open channel is shown, or on
its way, or brought by an answer that is still to come. -/

namespace Accord

open Store (PublicMessage)

namespace ChatView

private theorem lastStatus_append (was : Bool) (statuses : List Bool)
    (last : Bool) :
    lastStatus was (statuses ++ [last]) = last := by
  induction statuses generalizing was with
  | nil => rfl
  | cons connected rest induction => exact induction connected

private theorem reloads_append {was : Bool} {statuses : List Bool}
    (down : lastStatus was statuses = false) :
    reloads was (statuses ++ [true]) = true := by
  induction statuses generalizing was with
  | nil =>
      rw [lastStatus] at down
      rw [down]
      rfl
  | cons connected rest induction =>
      rw [List.cons_append, reloads, induction down, Bool.or_true]

/-- The public messages are numbered in the order of their rows, and their
senders are there. -/
structure Numbered (store : Store) : Prop where
  ordered : store.publicMessages.Pairwise (·.seq < ·.seq)
  ids : ∀ first ∈ store.publicMessages, ∀ second ∈ store.publicMessages,
    first.id = second.id → first = second
  bounded : ∀ row ∈ store.publicMessages, row.seq < Store.i64Max
  registered : store.SendersRegistered

section History

variable {store : Store} (numbered : Numbered store)

include numbered

private theorem Numbered.rows_ordered (groupId : Uuid) :
    (store.publicRows groupId).Pairwise (·.seq < ·.seq) :=
  numbered.ordered.filter _

private theorem Numbered.recent_nodup (groupId : Uuid) :
    (recent store groupId).Nodup := by
  have distinct : (store.publicRows groupId).Nodup :=
    (numbered.rows_ordered groupId).imp fun before same => by
      rw [same] at before
      exact Nat.lt_irrefl _ before
  exact distinct.sublist (List.drop_sublist _ _)

theorem Numbered.newest (groupId : Uuid) :
    Paging.newest PublicMessageRow.seq (store.publicRows groupId) =
      (store.publicRows groupId).reverse :=
  Paging.newest_eq (List.reverse_perm _)
    (List.pairwise_reverse.mpr (numbered.rows_ordered groupId))

theorem Numbered.fetched (groupId : Uuid) :
    ((store.fetchPublicHistory groupId 0 historyLimit).reverse.map (·.row)) =
      recent store groupId := by
  have everything := Store.filter_unbounded
    (fun row : PublicMessageRow => row.groupId == groupId) numbered.bounded
  rw [List.map_reverse, Store.fetchPublicHistory_rows numbered.registered]
  change ((Paging.newest PublicMessageRow.seq (store.publicMessages.filter
    fun row => row.groupId == groupId && row.seq <
      Store.upperSeq (0 : UInt64).toBitVec.toInt)).take
        historyLimit).reverse = _
  rw [everything]
  change ((Paging.newest PublicMessageRow.seq
    (store.publicRows groupId)).take historyLimit).reverse = _
  rw [numbered.newest, List.take_reverse, List.reverse_reverse]
  rfl

private theorem Numbered.holds_fetched (groupId : Uuid) :
    Holds store groupId
      (store.fetchPublicHistory groupId 0 historyLimit).reverse where
  own message listed := by
    have read : message.row ∈ recent store groupId := by
      rw [← numbered.fetched]
      exact List.mem_map_of_mem listed
    exact List.mem_of_mem_drop read
  once := by
    rw [numbered.fetched]
    exact numbered.recent_nodup groupId

end History

/-- A list of messages that is fit to be shown: whole, unless it is `stale`. -/
structure Fits (store : Store) (way : List PublicMessage) (groupId : Uuid)
    (stale : Bool) (shown : List PublicMessage) : Prop where
  holds : Holds store groupId shown
  covers : stale = false → Covers store way groupId shown

def way (view : ChatView) : List PublicMessage :=
  view.unpublished ++ view.pending

/-- The states on their way end with the one that the stream is in. -/
structure Told (view : ChatView) : Prop where
  news : view.statuses ≠ [] →
    ∀ was, lastStatus was view.statuses = view.streaming
  told : view.active = true →
    lastStatus view.wasConnected view.statuses = view.streaming

structure Contents (view : ChatView) : Prop where
  reading : ∀ load ∈ view.loads, ∀ shown ∈ load.answer,
    Fits view.store view.way load.groupId load.outdated shown
  showing : view.active = true → view.loaded = true →
    ∀ groupId ∈ view.activeId,
      Fits view.store view.way groupId view.behind view.messages

/-- Where messages are missing, the history is to come. -/
structure Mends (view : ChatView) : Prop where
  reloading : view.active = true → view.selecting = false →
    view.live = true → (view.loaded = true → view.behind = true) →
      ∀ groupId ∈ view.activeId, view.Reloading groupId
  listening : view.live = true → view.Listens view.subscribed

structure Kept (view : ChatView) : Prop where
  numbered : Numbered view.store
  stored : ∀ message ∈ view.way, message.row ∈ view.store.publicMessages
  told : view.Told
  contents : view.Contents
  mends : view.Mends

theorem Kept.shows {view : ChatView} (kept : view.Kept) (quiet : view.Quiet) :
    view.Shows := by
  intro groupId chosen
  have settled : ¬ view.Reloading groupId := by
    rintro (⟨load, listed, _⟩ | later)
    · rw [quiet.loads] at listed
      cases listed
    · rw [quiet.statuses] at later
      cases later
  have whole : ¬ (view.loaded = true → view.behind = true) := fun lacking =>
    settled (kept.mends.reloading quiet.active quiet.chosen quiet.live lacking
      groupId chosen)
  rw [Classical.not_imp, Bool.not_eq_true] at whole
  have fits := kept.contents.showing quiet.active whole.1 groupId chosen
  refine ⟨fits.holds, fun row newest => ?_⟩
  rcases fits.covers whole.2 row newest with shown | underway
  · exact shown
  · rw [way, quiet.unpublished, quiet.pending] at underway
    cases underway

section Fits

variable {store : Store} {groupId : Uuid} {way later : List PublicMessage}
  {stale : Bool} {shown : List PublicMessage}

/-- Messages leave the way, and a list that lacks one of them is stale. -/
theorem Fits.without {gone : List PublicMessage} {staler : Bool}
    (fits : Fits store way groupId stale shown)
    (left : ∀ message ∈ way, message ∈ later ∨ message ∈ gone)
    (still : staler = false → stale = false ∧ ∀ message ∈ gone,
      message.row.groupId = groupId → message.row ∈ shown.map (·.row)) :
    Fits store later groupId staler shown where
  holds := fits.holds
  covers fresh row newest := by
    obtain ⟨whole, has⟩ := still fresh
    rcases fits.covers whole row newest with there | underway
    · exact .inl there
    · obtain ⟨message, listed, same⟩ := List.mem_map.mp underway
      rcases left message listed with stays | goes
      · exact .inr (List.mem_map.mpr ⟨message, stays, same⟩)
      · have own : message.row.groupId = groupId := by
          have found := List.mem_of_mem_drop newest
          rw [← same] at found
          exact eq_of_beq (List.mem_filter.mp found).2
        exact .inl (same ▸ has message goes own)

private theorem Fits.of_rows {after : Store}
    (fits : Fits store way groupId stale shown)
    (same : after.publicMessages = store.publicMessages) :
    Fits after way groupId stale shown := by
  have rows : after.publicRows groupId = store.publicRows groupId := by
    rw [Store.publicRows, same]
    rfl
  refine ⟨⟨?_, fits.holds.once⟩, ?_⟩
  · rw [rows]
    exact fits.holds.own
  · rw [Covers, recent, rows]
    exact fits.covers

variable {row : PublicMessageRow}

private theorem mem_recent_append {other : PublicMessageRow}
    (newest : other ∈ recent { store with
      publicMessages := store.publicMessages ++ [row] } groupId) :
    other ∈ recent store groupId ∨ other = row := by
  have grown : ({ store with
      publicMessages := store.publicMessages ++ [row] } :
        Store).publicRows groupId = store.publicRows groupId ++
          [row].filter (·.groupId == groupId) :=
    List.filter_append ..
  rw [recent, grown, List.drop_append] at newest
  rcases List.mem_append.mp newest with old | new
  · left
    apply (List.drop_sublist_drop_left (store.publicRows groupId) ?_).subset
      old
    rw [List.length_append]
    omega
  · right
    have listed := (List.mem_filter.mp (List.mem_of_mem_drop new)).1
    exact List.mem_singleton.mp listed

theorem Fits.posted (fits : Fits store way groupId stale shown)
    (kept : ∀ message ∈ way, message ∈ later)
    (sent : row ∈ later.map (·.row)) :
    Fits { store with publicMessages := store.publicMessages ++ [row] } later
      groupId stale shown where
  holds := by
    refine ⟨fun message listed => ?_, fits.holds.once⟩
    have found := List.mem_filter.mp (fits.holds.own message listed)
    exact List.mem_filter.mpr ⟨List.mem_append_left _ found.1, found.2⟩
  covers fresh other newest := by
    rcases mem_recent_append newest with old | rfl
    · rcases fits.covers fresh other old with there | underway
      · exact .inl there
      · obtain ⟨message, listed, same⟩ := List.mem_map.mp underway
        exact .inr (List.mem_map.mpr ⟨message, kept message listed, same⟩)
    · exact .inr sent

end Fits

section Loads

variable {load : HistoryLoad} {shown : List PublicMessage}

private theorem mem_of_not_lacks (answered : load.answer = some shown)
    {row : PublicMessageRow} (named : row.groupId = load.groupId)
    (has : load.lacks row = false) : row ∈ shown.map (·.row) := by
  simp only [HistoryLoad.lacks, answered, Option.any_some, named,
    beq_self_eq_true, Bool.true_and, Bool.not_eq_false', List.any_eq_true,
    beq_iff_eq] at has
  obtain ⟨message, listed, same⟩ := has
  exact List.mem_map.mpr ⟨message, listed, same⟩

private theorem has_of_miss (answered : load.answer = some shown)
    {rows : List PublicMessageRow} (still : (load.miss rows).outdated = false) :
    load.outdated = false ∧ ∀ row ∈ rows, row.groupId = load.groupId →
      row ∈ shown.map (·.row) := by
  simp only [HistoryLoad.miss, Bool.or_eq_false_iff, List.any_eq_false,
    Bool.not_eq_true] at still
  exact ⟨still.1, fun row listed named =>
    mem_of_not_lacks answered named (still.2 row listed)⟩

end Loads

section Steps

variable {view : ChatView}

private theorem reading_miss {store : Store}
    {way later gone : List PublicMessage}
    {loads : List HistoryLoad}
    (reading : ∀ load ∈ loads, ∀ shown ∈ load.answer,
      Fits store way load.groupId load.outdated shown)
    (left : ∀ message ∈ way, message ∈ later ∨ message ∈ gone) :
    ∀ load ∈ loads.map (·.miss (gone.map (·.row))), ∀ shown ∈ load.answer,
      Fits store later load.groupId load.outdated shown := by
  intro load listed shown answered
  obtain ⟨before, stored, rfl⟩ := List.mem_map.mp listed
  have known : before.answer = some shown := answered
  apply (reading before stored shown answered).without left
  intro still
  obtain ⟨whole, has⟩ := has_of_miss known still
  exact ⟨whole, fun message goes own =>
    has message.row (List.mem_map_of_mem goes) own⟩

private theorem Contents.goBy (contents : view.Contents)
    {gone unpublished pending : List PublicMessage}
    (left : ∀ message ∈ view.way,
      message ∈ unpublished ++ pending ∨ message ∈ gone) :
    Contents { view.goBy gone with
      unpublished := unpublished, pending := pending } where
  reading := reading_miss contents.reading left
  showing active loaded groupId chosen := by
    apply (contents.showing active loaded groupId chosen).without left
    intro still
    have parts := Bool.or_eq_false_iff.mp still
    refine ⟨parts.1, fun message goes own => ?_⟩
    have other := List.any_eq_false.mp parts.2 message goes
    refine absurd ?_ other
    rw [own]
    exact beq_iff_eq.mpr chosen

private theorem reloading_goBy {gone : List PublicMessage} {groupId : Uuid}
    (reloading : view.Reloading groupId) :
    (view.goBy gone).Reloading groupId := by
  rcases reloading with ⟨load, listed, own⟩ | later
  · exact .inl ⟨_, List.mem_map_of_mem listed, own⟩
  · exact .inr later

private theorem post_cases (draw : RowDraw) (content : String)
    {groupId senderId clientMessageId : Uuid}
    (new : view.store.findPublicMessage groupId clientMessageId = none)
    (registered : view.store.hasUser senderId = true) :
    view.post draw groupId senderId content clientMessageId = view ∨
      ∃ sent name, sent.senderId = senderId ∧ sent.id = draw.id ∧
        sent.seq = draw.seq ∧
        (∀ row ∈ view.store.publicMessages, row.seq < sent.seq) ∧
        view.post draw groupId senderId content clientMessageId =
          { view with
            store := { view.store with
              publicMessages := view.store.publicMessages ++ [sent] }
            unpublished := view.unpublished ++ [⟨sent, name⟩] } := by
  let sent := Store.sentMessage draw groupId senderId content clientMessageId
  have unstored : view.store.findPublicMessage sent.groupId
      sent.clientMessageId = none := new
  rw [post, Store.insertPublicMessage]
  cases accepted : Store.storesPublicMessage sent view.store with
  | false =>
      obtain ⟨error, refused⟩ :=
        Store.keepPublicMessage_of_refused unstored accepted
      left
      rw [Effect.bind_of_error refused]
  | true =>
      have stored := Store.keepPublicMessage_of_accepted unstored accepted
      obtain ⟨name, known⟩ := Store.displayName_of_hasUser registered
      have named : Store.senderName senderId { view.store with
          publicMessages := view.store.publicMessages ++ [sent] } =
            (.ok name, { view.store with
              publicMessages := view.store.publicMessages ++ [sent] }) :=
        MessageSend.senderName_of_some known
      right
      refine ⟨sent, name, rfl, rfl, rfl, ?_, ?_⟩
      · have parts := Bool.and_eq_true_iff.mp accepted
        have numbers := Bool.and_eq_true_iff.mp parts.2
        intro row listed
        exact of_decide_eq_true (List.all_eq_true.mp numbers.1 row listed)
      · rw [Effect.bind_of_ok stored, Effect.bind_of_ok named]
        rfl

theorem Numbered.append {store : Store} {row : PublicMessageRow}
    (numbered : Numbered store)
    (fresh : ∀ other ∈ store.publicMessages, other.id ≠ row.id)
    (above : ∀ other ∈ store.publicMessages, other.seq < row.seq)
    (bounded : row.seq < Store.i64Max)
    (registered : store.hasUser row.senderId = true) :
    Numbered { store with
      publicMessages := store.publicMessages ++ [row] } where
  ordered := by
    refine List.pairwise_append.mpr
      ⟨numbered.ordered, List.pairwise_singleton _ _, ?_⟩
    intro other listed last same
    rw [List.mem_singleton.mp same]
    exact above other listed
  ids := by
    intro first listed second also same
    rcases List.mem_append.mp listed with old | new <;>
      rcases List.mem_append.mp also with older | newer
    · exact numbered.ids first old second older same
    · rw [List.mem_singleton.mp newer] at same
      exact absurd same (fresh first old)
    · rw [List.mem_singleton.mp new] at same
      exact absurd same.symm (fresh second older)
    · rw [List.mem_singleton.mp new, List.mem_singleton.mp newer]
  bounded := by
    intro other listed
    rcases List.mem_append.mp listed with old | new
    · exact numbered.bounded other old
    · rw [List.mem_singleton.mp new]
      exact bounded
  registered := by
    intro other listed
    rcases List.mem_append.mp listed with old | new
    · exact numbered.registered other old
    · rw [List.mem_singleton.mp new]
      exact registered

theorem Kept.post (kept : view.Kept) {draw : RowDraw}
    {groupId senderId clientMessageId : Uuid} {content : String}
    (careful : view.Careful
      (.post draw groupId senderId content clientMessageId)) :
    (view.post draw groupId senderId content clientMessageId).Kept := by
  obtain ⟨new, fresh, bounded, registered⟩ := careful
  rcases post_cases draw content new registered with
    refused | ⟨sent, name, sender, drawn, numbered, above, stored⟩
  · rw [refused]
    exact kept
  · rw [stored]
    let later := (view.unpublished ++ [⟨sent, name⟩]) ++ view.pending
    have stays : ∀ message ∈ view.way, message ∈ later := by
      intro message listed
      rcases List.mem_append.mp listed with early | late
      · exact List.mem_append_left _ (List.mem_append_left _ early)
      · exact List.mem_append_right _ late
    have sends : sent ∈ later.map (·.row) :=
      List.mem_map_of_mem (List.mem_append_left _
        (List.mem_append_right view.unpublished
          (List.mem_singleton_self (⟨sent, name⟩ : PublicMessage))))
    refine ⟨?_, ?_, ⟨kept.told.news, kept.told.told⟩, ⟨?_, ?_⟩,
      ⟨kept.mends.reloading, kept.mends.listening⟩⟩
    · exact kept.numbered.append (by rw [drawn]; exact fresh) above
        (by rw [numbered]; exact bounded) (by rw [sender]; exact registered)
    · intro message listed
      rcases List.mem_append.mp listed with early | late
      · rcases List.mem_append.mp early with old | last
        · exact List.mem_append_left _
            (kept.stored message (List.mem_append_left _ old))
        · rw [List.mem_singleton.mp last]
          exact List.mem_append_right _ (List.mem_singleton_self _)
      · exact List.mem_append_left _
          (kept.stored message (List.mem_append_right _ late))
    · intro load listed shown answered
      exact (kept.contents.reading load listed shown answered).posted stays
        sends
    · intro active loaded channel chosen
      exact (kept.contents.showing active loaded channel chosen).posted stays
        sends

theorem Contents.along (contents : view.Contents)
    {unpublished pending : List PublicMessage}
    (stays : ∀ message ∈ view.way, message ∈ unpublished ++ pending) :
    Contents { view with unpublished := unpublished, pending := pending } where
  reading load listed shown answered :=
    (contents.reading load listed shown answered).without
      (fun message listed => .inl (stays message listed))
      (fun still => ⟨still, fun _ none => absurd none List.not_mem_nil⟩)
  showing active loaded groupId chosen :=
    (contents.showing active loaded groupId chosen).without
      (fun message listed => .inl (stays message listed))
      (fun still => ⟨still, fun _ none => absurd none List.not_mem_nil⟩)

/-- A message that is lost while the stream works is one of a channel that is
not open. -/
theorem Kept.lost (kept : view.Kept) {place : ℕ} {room : Bool}
    {message : PublicMessage}
    (careful : view.Careful (.publish place room))
    (found : view.unpublished[place]? = some message)
    (lost : ¬ (view.live && room &&
      view.subscribed.contains message.row.groupId) = true)
    (active : view.active = true) (chosen : view.selecting = false)
    (live : view.live = true) :
    view.activeId ≠ some message.row.groupId := by
  intro shows
  have heard := kept.mends.listening live active chosen _ shows
  apply lost
  rw [live, careful live message found shows]
  simpa using heard

theorem Kept.publish (kept : view.Kept) {place : ℕ} {room : Bool}
    (careful : view.Careful (.publish place room)) :
    (view.publish place room).Kept := by
  cases found : view.unpublished[place]? with
  | none => simpa only [ChatView.publish, found] using kept
  | some message =>
      have handed : ∀ other ∈ view.unpublished,
          other ∈ view.unpublished.eraseIdx place ∨ other = message :=
        fun other => Slots.mem_eraseIdx_or found
      have early : ∀ other ∈ view.unpublished.eraseIdx place,
          other ∈ view.unpublished := fun other => List.mem_of_mem_eraseIdx
      simp only [ChatView.publish, found]
      split
      · refine ⟨kept.numbered, ?_, ⟨kept.told.news, kept.told.told⟩, ?_,
          ⟨kept.mends.reloading, kept.mends.listening⟩⟩
        · intro other listed
          simp only [way, List.mem_append, List.mem_singleton] at listed
          apply kept.stored
          rcases listed with old | pending | rfl
          · exact List.mem_append_left _ (early other old)
          · exact List.mem_append_right _ pending
          · exact List.mem_append_left _ (List.mem_of_getElem? found)
        · apply kept.contents.along
          intro other listed
          rcases List.mem_append.mp listed with old | pending
          · rcases handed other old with stays | rfl
            · exact List.mem_append_left _ stays
            · exact List.mem_append_right _
                (List.mem_append_right _ (List.mem_singleton_self _))
          · exact List.mem_append_right _ (List.mem_append_left _ pending)
      · rename_i lost
        refine ⟨kept.numbered, ?_, ⟨kept.told.news, kept.told.told⟩, ?_,
          ⟨?_, kept.mends.listening⟩⟩
        · intro other listed
          apply kept.stored
          rcases List.mem_append.mp listed with old | pending
          · exact List.mem_append_left _ (early other old)
          · exact List.mem_append_right _ pending
        · apply kept.contents.goBy
          intro other listed
          rcases List.mem_append.mp listed with old | pending
          · rcases handed other old with stays | rfl
            · exact .inl (List.mem_append_left _ stays)
            · exact .inr (List.mem_singleton_self _)
          · exact .inl (List.mem_append_right _ pending)
        · intro active chosen live lacking groupId shows
          have other := kept.lost careful found lost active chosen live
          apply reloading_goBy
          apply kept.mends.reloading active chosen live ?_ groupId shows
          intro loaded
          have behind := lacking loaded
          simpa [goBy, miss, beq_false_of_ne other] using behind

private theorem Kept.streamDown (kept : view.Kept) (arrived : ℕ) :
    (view.streamDown arrived).Kept := by
  have last := fun was => lastStatus_append was view.statuses false
  have dead : (view.streamDown arrived).live ≠ true := Bool.false_ne_true
  have split : ∀ message ∈ view.way,
      message ∈ view.unpublished ++ view.pending.take arrived ∨
        message ∈ view.pending.drop arrived := by
    intro message listed
    rcases List.mem_append.mp listed with early | late
    · exact .inl (List.mem_append_left _ early)
    · rw [← List.take_append_drop arrived view.pending] at late
      rcases List.mem_append.mp late with first | rest
      · exact .inl (List.mem_append_right _ first)
      · exact .inr rest
  have contents := kept.contents.goBy split
  refine ⟨kept.numbered, ?_, ⟨fun _ => last, fun _ => last _⟩,
    ⟨contents.reading, contents.showing⟩,
    ⟨fun _ _ live => absurd live dead, fun live => absurd live dead⟩⟩
  intro message listed
  apply kept.stored
  rcases List.mem_append.mp listed with early | late
  · exact List.mem_append_left _ early
  · exact List.mem_append_right _ (List.mem_of_mem_take late)

private theorem Kept.streamUp (kept : view.Kept) {groups : List Uuid}
    (careful : view.Careful (.streamUp groups)) :
    (view.streamUp groups).Kept := by
  have last := fun was => lastStatus_append was view.statuses true
  refine ⟨kept.numbered, kept.stored, ⟨fun _ => last, fun _ => last _⟩,
    ⟨kept.contents.reading, kept.contents.showing⟩, ⟨?_, ?_⟩⟩
  · intro active _ _ _ groupId _
    have down := kept.told.told active
    rw [careful.1] at down
    exact .inr (reloads_append down)
  · intro _
    exact careful.2

theorem Fits.shown {store : Store} {way later shown : List PublicMessage}
    {groupId : Uuid} {stale : Bool} {message : PublicMessage}
    (numbered : Numbered store) (fits : Fits store way groupId stale shown)
    (stored : message.row ∈ store.publicMessages)
    (own : message.row.groupId = groupId)
    (left : ∀ other ∈ way, other ∈ later ∨ other = message) :
    Fits store later groupId stale
      (if shown.any (·.row.id == message.row.id) then shown
        else shown ++ [message]) := by
  have listed : message.row ∈ store.publicRows groupId :=
    List.mem_filter.mpr ⟨stored, beq_iff_eq.mpr own⟩
  have gone : ∀ other ∈ way, other ∈ later ∨ other ∈ [message] := by
    intro other under
    rw [List.mem_singleton]
    exact left other under
  by_cases known : shown.any (·.row.id == message.row.id) = true
  · rw [if_pos known]
    apply fits.without gone
    intro still
    refine ⟨still, fun other here _ => ?_⟩
    obtain ⟨twin, present, same⟩ := List.any_eq_true.mp known
    have there := (List.mem_filter.mp (fits.holds.own twin present)).1
    have equal := numbered.ids _ there _ stored (eq_of_beq same)
    rw [List.mem_singleton.mp here, ← equal]
    exact List.mem_map_of_mem present
  · rw [if_neg known]
    constructor
    · constructor
      · intro other present
        rcases List.mem_append.mp present with old | last
        · exact fits.holds.own other old
        · rw [List.mem_singleton.mp last]
          exact listed
      · rw [List.map_append]
        refine List.nodup_append.mpr
          ⟨fits.holds.once, List.nodup_singleton _, ?_⟩
        intro row old last single same
        obtain ⟨twin, present, rfl⟩ := List.mem_map.mp old
        apply known
        rw [List.any_eq_true]
        refine ⟨twin, present, beq_iff_eq.mpr ?_⟩
        rw [same, List.mem_singleton.mp single]
    · intro still row newest
      rcases fits.covers still row newest with there | underway
      · left
        rw [List.map_append]
        exact List.mem_append_left _ there
      · obtain ⟨other, under, same⟩ := List.mem_map.mp underway
        rcases left other under with stays | rfl
        · exact .inr (List.mem_map.mpr ⟨other, stays, same⟩)
        · left
          rw [← same]
          exact List.mem_map_of_mem
            (List.mem_append_right _ (List.mem_singleton_self _))

private theorem deliver_of_cons {message : PublicMessage}
    {rest : List PublicMessage}
    (under : view.pending = message :: rest) :
    view.deliver = { view.miss [message.row] with
      pending := rest
      messages :=
        if view.active && view.activeId == some message.row.groupId then
          if view.messages.any (·.row.id == message.row.id) then
            view.messages
          else
            view.messages ++ [message]
        else
          view.messages } := by
  simp only [deliver, under]
  cases active : view.active with
  | false => simp [miss, active]
  | true =>
      by_cases shows : (view.activeId == some message.row.groupId) = true
      · simp [appendIfActive, miss, active, shows]
      · simp [appendIfActive, miss, active, shows]

theorem Kept.deliver (kept : view.Kept) : view.deliver.Kept := by
  cases under : view.pending with
  | nil => simpa only [ChatView.deliver, under] using kept
  | cons message rest =>
      have early : ∀ other ∈ view.unpublished ++ rest, other ∈ view.way := by
        intro other listed
        rw [way, under]
        rcases List.mem_append.mp listed with old | later
        · exact List.mem_append_left _ old
        · exact List.mem_append_right _ (List.mem_cons_of_mem _ later)
      have left : ∀ other ∈ view.way,
          other ∈ view.unpublished ++ rest ∨ other = message := by
        intro other listed
        rw [way, under] at listed
        rcases List.mem_append.mp listed with old | later
        · exact .inl (List.mem_append_left _ old)
        · rcases List.mem_cons.mp later with same | stays
          · exact .inr same
          · exact .inl (List.mem_append_right _ stays)
      have gone : ∀ other ∈ view.way,
          other ∈ view.unpublished ++ rest ∨ other ∈ [message] := by
        intro other listed
        rw [List.mem_singleton]
        exact left other listed
      have stored : message.row ∈ view.store.publicMessages := by
        apply kept.stored
        rw [way, under]
        exact List.mem_append_right _ List.mem_cons_self
      rw [deliver_of_cons under]
      refine ⟨kept.numbered, fun other listed => ?_,
        ⟨kept.told.news, kept.told.told⟩,
        ⟨reading_miss kept.contents.reading gone, ?_⟩,
        ⟨?_, kept.mends.listening⟩⟩
      · exact kept.stored other (early other listed)
      · intro active loaded groupId chosen
        have before := kept.contents.showing active loaded groupId chosen
        have turned : view.active = true := active
        have opened : view.activeId = some groupId := chosen
        change Fits view.store (view.unpublished ++ rest) groupId view.behind
          (if (view.active &&
            view.activeId == some message.row.groupId) = true then _ else _)
        rw [turned, opened, Bool.true_and]
        by_cases own : message.row.groupId = groupId
        · rw [if_pos (by rw [own]; exact beq_self_eq_true _)]
          exact before.shown kept.numbered stored own left
        · rw [if_neg fun same =>
            own (Option.some.inj (eq_of_beq same)).symm]
          apply before.without gone
          refine fun still => ⟨still, fun other here same => ?_⟩
          rw [List.mem_singleton.mp here] at same
          exact absurd same own
      · intro active chosen live lacking groupId shows
        rcases kept.mends.reloading active chosen live lacking groupId shows
          with ⟨load, listed, own⟩ | later
        · exact .inl ⟨_, List.mem_map_of_mem listed, own⟩
        · exact .inr later

private theorem lastStatus_of_ne {statuses : List Bool} (some : statuses ≠ [])
    (was other : Bool) :
    lastStatus was statuses = lastStatus other statuses := by
  cases statuses with
  | nil => exact absurd rfl some
  | cons connected rest => rfl

theorem Contents.loading (contents : view.Contents) :
    ∀ load ∈ view.loadHistory.loads, ∀ shown ∈ load.answer,
      Fits view.store view.way load.groupId load.outdated shown := by
  intro load listed shown answered
  cases shows : view.activeId with
  | none =>
      simp only [loadHistory, shows] at listed
      exact contents.reading load listed shown answered
  | some groupId =>
      simp only [loadHistory, shows] at listed
      rcases List.mem_append.mp listed with old | new
      · exact contents.reading load old shown answered
      · rw [List.mem_singleton.mp new] at answered
        cases answered

private theorem loadHistory_loads {groupId : Uuid}
    (shows : view.activeId = some groupId) :
    view.loadHistory.loads = view.loads ++ [⟨groupId, none, false⟩] := by
  simp only [loadHistory, shows]

private theorem status_of_cons {connected : Bool} {rest : List Bool}
    (states : view.statuses = connected :: rest) :
    view.status = { view with
      statuses := rest
      wasConnected := if view.active then connected else view.wasConnected
      loads :=
        if view.active && (connected && !view.wasConnected) then
          view.loadHistory.loads
        else
          view.loads } := by
  simp only [status, states]
  cases active : view.active with
  | false => simp
  | true =>
      cases again : connected && !view.wasConnected with
      | false => simp
      | true =>
          cases shows : view.activeId <;> simp [loadHistory, shows, active]

theorem Kept.status (kept : view.Kept) : view.status.Kept := by
  cases states : view.statuses with
  | nil => simpa only [ChatView.status, states] using kept
  | cons connected rest =>
      have last : lastStatus connected rest = view.streaming := by
        have last := kept.told.news (by rw [states]; simp) connected
        rwa [states] at last
      have later : rest ≠ [] → ∀ was, lastStatus was rest = view.streaming :=
        fun some was => by rw [lastStatus_of_ne some was connected, last]
      rw [status_of_cons states]
      refine ⟨kept.numbered, kept.stored, ⟨later, ?_⟩,
        ⟨?_, kept.contents.showing⟩, ⟨?_, kept.mends.listening⟩⟩
      · intro active
        have turned : view.active = true := active
        simpa only [turned, if_true] using last
      · intro load listed
        change load ∈ (if _ then _ else _) at listed
        split at listed
        · exact kept.contents.loading load listed
        · exact kept.contents.reading load listed
      · intro active chosen live lacking groupId shows
        have turned : view.active = true := active
        have opened : view.activeId = some groupId := shows
        cases again : connected && !view.wasConnected with
        | true =>
            left
            simp only [turned, Bool.and_self, if_true]
            rw [loadHistory_loads opened]
            exact ⟨_, List.mem_append_right _ (List.mem_singleton_self _), rfl⟩
        | false =>
            rcases kept.mends.reloading active chosen live lacking groupId
              shows with found | coming
            · left
              simpa only [again, Bool.and_false, Bool.false_eq_true,
                if_false] using found
            · right
              rw [states, reloads, again, Bool.false_or] at coming
              simpa only [turned, if_true] using coming

private theorem Kept.selectServer (kept : view.Kept)
    (careful : view.Careful .selectServer) : view.selectServer.Kept := by
  have unsettled : view.selectServer.selecting ≠ false :=
    Bool.true_eq_false.mp
  refine ⟨kept.numbered, kept.stored, ⟨kept.told.news, fun _ => ?_⟩,
    ⟨kept.contents.reading, fun _ loaded => by cases loaded⟩,
    ⟨fun _ chosen => absurd chosen unsettled,
      fun _ _ chosen => absurd chosen unsettled⟩⟩
  change lastStatus true view.statuses = view.streaming
  cases states : view.statuses with
  | nil => exact (careful states).symm
  | cons connected rest =>
      rw [← states]
      exact kept.told.news (by rw [states]; simp) true

/-- Another channel, before its history is asked for. -/
def turnTo (view : ChatView) (groupId : Option Uuid) : ChatView :=
  { view with selecting := false, activeId := groupId, loaded := false }

private theorem openChannel_of_ne {groupId : Option Uuid}
    (other : view.activeId ≠ groupId) :
    view.openChannel groupId = { view.turnTo groupId with
      loads :=
        if view.active then (view.turnTo groupId).loadHistory.loads
        else view.loads } := by
  simp only [openChannel, other, if_false, turnTo]
  split
  · cases groupId <;> rfl
  · rfl

theorem Kept.openChannel (kept : view.Kept) {groupId : Option Uuid}
    (careful : view.Careful (.openChannel groupId)) :
    (view.openChannel groupId).Kept := by
  by_cases same : view.activeId = groupId
  · have settled : view.selecting = false := by
      rw [← Bool.not_eq_true]
      exact fun selecting => careful.1 selecting same
    rw [ChatView.openChannel, if_pos same]
    refine ⟨kept.numbered, kept.stored, ⟨kept.told.news, kept.told.told⟩,
      ⟨kept.contents.reading, kept.contents.showing⟩, ⟨?_, ?_⟩⟩
    · intro active _
      exact kept.mends.reloading active settled
    · intro live active _
      exact kept.mends.listening live active settled
  · rw [openChannel_of_ne same]
    have blank : (view.turnTo groupId).loaded ≠ true := Bool.false_ne_true
    have contents : (view.turnTo groupId).Contents :=
      ⟨kept.contents.reading, fun _ loaded => absurd loaded blank⟩
    refine ⟨kept.numbered, kept.stored, ⟨kept.told.news, kept.told.told⟩,
      ⟨?_, fun _ loaded => absurd loaded blank⟩, ⟨?_, ?_⟩⟩
    · intro load listed
      change load ∈ (if _ then _ else _) at listed
      split at listed
      · exact contents.loading load listed
      · exact contents.reading load listed
    · intro active _ _ _ channel shows
      have turned : view.active = true := active
      have opened : (view.turnTo groupId).activeId = some channel := shows
      left
      simp only [turned, if_true]
      rw [loadHistory_loads opened]
      exact ⟨_, List.mem_append_right _ (List.mem_singleton_self _), rfl⟩
    · intro live _ _
      exact careful.2 live

theorem Kept.read (kept : view.Kept) (place : ℕ) :
    (view.read place).Kept := by
  unfold ChatView.read
  split
  · rename_i groupId outdated found
    let answered : HistoryLoad := ⟨groupId, some (view.store.fetchPublicHistory
      groupId 0 historyLimit).reverse, outdated⟩
    refine ⟨kept.numbered, kept.stored, ⟨kept.told.news, kept.told.told⟩,
      ⟨?_, kept.contents.showing⟩, ⟨?_, kept.mends.listening⟩⟩
    · intro load listed shown known
      rcases List.mem_or_eq_of_mem_set listed with old | rfl
      · exact kept.contents.reading load old shown known
      · cases known
        refine ⟨kept.numbered.holds_fetched groupId, fun _ row newest => ?_⟩
        left
        rw [kept.numbered.fetched]
        exact newest
    · intro active chosen live lacking channel shows
      rcases kept.mends.reloading active chosen live lacking channel shows with
        ⟨load, listed, own⟩ | coming
      · left
        obtain ⟨index, stored⟩ := List.mem_iff_getElem?.mp listed
        have after := Slots.getElem?_set_of_found found answered index
        by_cases here : index = place
        · rw [if_pos here] at after
          rw [here, found] at stored
          cases stored
          exact ⟨answered, List.mem_of_getElem? after, own⟩
        · rw [if_neg here, stored] at after
          exact ⟨load, List.mem_of_getElem? after, own⟩
      · exact .inr coming
  · exact kept

theorem Kept.fail (kept : view.Kept) {place : ℕ}
    (careful : view.Careful (.fail place)) : (view.fail place).Kept := by
  refine ⟨kept.numbered, kept.stored, ⟨kept.told.news, kept.told.told⟩,
    ⟨?_, kept.contents.showing⟩, ⟨?_, kept.mends.listening⟩⟩
  · intro load listed
    exact kept.contents.reading load (List.mem_of_mem_eraseIdx listed)
  · intro active chosen live lacking groupId shows
    rcases kept.mends.reloading active chosen live lacking groupId shows with
      ⟨load, listed, own⟩ | coming
    · cases found : view.loads[place]? with
      | none =>
          left
          refine ⟨load, ?_, own⟩
          obtain ⟨index, stored⟩ := List.mem_iff_getElem?.mp listed
          refine List.mem_eraseIdx_iff_getElem?.mpr ⟨index, ?_, stored⟩
          rintro rfl
          rw [found] at stored
          cases stored
      | some failing =>
          rcases Slots.mem_eraseIdx_or found listed with stays | rfl
          · exact .inl ⟨load, stays, own⟩
          · rw [← own] at shows ⊢
            rcases careful active live load found shows with whole | again
            · have behind := lacking whole.1
              exact absurd (behind.symm.trans whole.2) Bool.true_eq_false.mp
            · exact again
    · exact .inr coming

theorem Kept.answer (kept : view.Kept) {place : ℕ}
    (careful : view.Careful (.answer place)) : (view.answer place).Kept := by
  unfold ChatView.answer
  split
  · rename_i channel shown outdated found
    refine ⟨kept.numbered, kept.stored, ⟨kept.told.news, kept.told.told⟩,
      ⟨?_, ?_⟩, ⟨?_, kept.mends.listening⟩⟩
    · intro load listed
      exact kept.contents.reading load (List.mem_of_mem_eraseIdx listed)
    · intro active _ groupId shows
      have fits := kept.contents.reading _ (List.mem_of_getElem? found) shown
        rfl
      have own := (careful active _ found).1
      rw [show view.activeId = some groupId from shows] at own
      cases own
      exact fits
    · intro active _ live lacking groupId shows
      obtain ⟨own, again⟩ := careful active _ found
      rw [show view.activeId = some groupId from shows] at own
      cases own
      exact again live (lacking rfl)
  · exact kept

theorem Kept.elsewhere (kept : view.Kept) {after : Store}
    (same : after.publicMessages = view.store.publicMessages)
    (registered : after.SendersRegistered) :
    Kept { view with store := after } where
  numbered := by
    refine ⟨?_, ?_, ?_, registered⟩ <;> rw [same]
    · exact kept.numbered.ordered
    · exact kept.numbered.ids
    · exact kept.numbered.bounded
  stored message listed := by
    change message.row ∈ after.publicMessages
    rw [same]
    exact kept.stored message listed
  told := ⟨kept.told.news, kept.told.told⟩
  contents := by
    constructor
    · intro load listed shown answered
      exact (kept.contents.reading load listed shown answered).of_rows same
    · intro active loaded groupId chosen
      exact (kept.contents.showing active loaded groupId chosen).of_rows same
  mends := ⟨kept.mends.reloading, kept.mends.listening⟩

theorem Kept.step (kept : view.Kept) {event : ChatEvent}
    (careful : view.Careful event) : (view.step event).Kept := by
  cases event with
  | post draw groupId senderId content clientMessageId =>
      exact kept.post careful
  | publish place room => exact kept.publish careful
  | elsewhere after => exact kept.elsewhere careful.1 careful.2
  | subscribe groups =>
      exact ⟨kept.numbered, kept.stored, ⟨kept.told.news, kept.told.told⟩,
        ⟨kept.contents.reading, kept.contents.showing⟩,
        ⟨kept.mends.reloading, careful⟩⟩
  | cut =>
      have dead : ({ view with cut := true } : ChatView).live ≠ true := by
        simp [live]
      exact ⟨kept.numbered, kept.stored, ⟨kept.told.news, kept.told.told⟩,
        ⟨kept.contents.reading, kept.contents.showing⟩,
        ⟨fun _ _ live => absurd live dead, fun live => absurd live dead⟩⟩
  | streamDown arrived => exact kept.streamDown arrived
  | streamUp groups => exact kept.streamUp careful
  | deliver => exact kept.deliver
  | status => exact kept.status
  | selectServer => exact kept.selectServer careful
  | leaveServer =>
      exact ⟨kept.numbered, kept.stored,
        ⟨kept.told.news, fun active => by cases active⟩,
        ⟨kept.contents.reading, fun active => by cases active⟩,
        ⟨fun active => (by cases active), fun _ active => by cases active⟩⟩
  | openChannel groupId => exact kept.openChannel careful
  | read place => exact kept.read place
  | answer place => exact kept.answer careful
  | fail place => exact kept.fail careful
  | stray shown =>
      have idle : view.active ≠ true := by
        rw [show view.active = false from careful]
        exact Bool.false_ne_true
      exact ⟨kept.numbered, kept.stored, ⟨kept.told.news, kept.told.told⟩,
        ⟨kept.contents.reading, fun active => absurd active idle⟩,
        ⟨kept.mends.reloading, kept.mends.listening⟩⟩

theorem Numbered.kept {store : Store} (numbered : Numbered store) :
    Kept { store := store } where
  numbered := numbered
  stored _ listed := absurd listed List.not_mem_nil
  told := ⟨fun some => absurd rfl some, fun _ => rfl⟩
  contents :=
    ⟨fun _ listed => absurd listed List.not_mem_nil,
      fun _ loaded => absurd loaded Bool.false_ne_true⟩
  mends :=
    ⟨fun _ _ _ _ _ shows => absurd shows.symm (Option.some_ne_none _),
      fun _ _ _ _ shows => absurd shows.symm (Option.some_ne_none _)⟩

end Steps

/-- Once its history has come, the window shows messages of the open channel
only, each once; and whenever nothing is under way, the newest are among
them. -/
structure Faithful (view : ChatView) : Prop where
  own : view.active = true → view.loaded = true →
    ∀ groupId ∈ view.activeId, Holds view.store groupId view.messages
  newest : view.Quiet → view.Shows

/-- Messages may be stored, handed out, lost with the stream and fetched in
any order. -/
theorem window_shows_channel {store : Store} (numbered : Numbered store)
    {events : List ChatEvent}
    (careful : EventRun.Each step Careful { store := store } events) :
    EventRun.Always step Faithful { store := store } events := by
  have always : EventRun.Always step Kept { store := store } events :=
    EventRun.always_of_step (fun _ _ kept allowed => kept.step allowed)
      numbered.kept careful
  apply always.imp
  intro view kept
  refine ⟨?_, kept.shows⟩
  intro active loaded groupId chosen
  exact (kept.contents.showing active loaded groupId chosen).holds

def chatStore : Store where
  users := [⟨9, "u", "U", "", true, false, none, ""⟩]
  groups :=
    [⟨1, "one", "", .pub, .text, "", 0⟩, ⟨2, "two", "", .pub, .text, "", 1⟩]

private theorem chatStore_numbered : Numbered chatStore where
  ordered := .nil
  ids _ listed := absurd listed List.not_mem_nil
  bounded _ listed := absurd listed List.not_mem_nil
  registered _ listed := absurd listed List.not_mem_nil

/-- The stream breaks while a message is handed out; the client finds out,
connects again and asks for the history. -/
def lostWithStream : List ChatEvent :=
  [.subscribe [1, 2], .openChannel (some 1), .read 0, .answer 0,
    .post ⟨11, 1, 0⟩ 1 9 "first" 21, .publish 0 true, .deliver,
    .cut, .post ⟨12, 2, 0⟩ 1 9 "second" 22, .publish 0 true,
    .streamDown 0, .status, .streamUp [1, 2], .status, .read 0, .answer 0]

theorem lostWithStream_shows :
    EventRun.Always step Faithful { store := chatStore } lostWithStream :=
  window_shows_channel chatStore_numbered (by decide +kernel)

-- The history of a channel that was left comes in last, and is what is shown.
example :
    let view := EventRun.run step { store := chatStore }
      [.subscribe [1, 2], .post ⟨11, 1, 0⟩ 1 9 "first" 21, .publish 0 true,
        .deliver, .openChannel (some 1), .read 0, .openChannel (some 2),
        .read 1, .answer 1, .answer 0]
    view.activeId = some 2 ∧ view.messages.map (·.row.groupId) = [1] := by
  decide +kernel

-- Back at the server with the channel open that it opens: nothing is loaded.
example :
    let view := EventRun.run step { store := chatStore }
      [.subscribe [1, 2], .post ⟨11, 1, 0⟩ 1 9 "first" 21, .publish 0 true,
        .deliver, .openChannel (some 1), .read 0, .answer 0, .leaveServer,
        .selectServer, .openChannel (some 1)]
    view.messages = [] ∧ view.loads = [] := by
  decide +kernel

end ChatView

end Accord
