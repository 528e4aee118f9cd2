import Accord.Client.Outbox

/-! The outbox holds one entry for a peer and kind, and the merge of a sync
changes little in it, unless its write is torn. -/

namespace Accord

structure Acceptance.Genuine (acceptance : Acceptance) : Prop where
  kind : acceptance.row.kind = "accept"
  peer : ∃ target identity,
    targetFromCode acceptance.row.contactCode = .ok (target, identity) ∧
      acceptance.peerId = Contacts.toHex identity

namespace Outbox

open OutboxEntry

def Unique (outbox : List OutboxEntry) : Prop :=
  (outbox.map key).Nodup

/-- An entry is marked as delivered only if the sync delivered one of its peer
and kind, and nothing else of it changes but who the peer is. -/
structure Marked (deliveredNow : List OutboxEntry)
    (old new : OutboxEntry) : Prop where
  fixed : new.fixed = old.fixed
  delivered : new.delivered = true →
    old.delivered = true ∨ old.key ∈ deliveredNow.map key

/-- Entries are marked and some are left out: those of a request whose
acceptance the sync consumed, and delivered acceptances. -/
def MergeFrame (deliveredNow : List OutboxEntry)
    (accepted : List Acceptance) (before after : List OutboxEntry) : Prop :=
  ∃ (marked : List OutboxEntry) (finished : OutboxEntry → Bool),
    List.Forall₂ (Marked deliveredNow) before marked ∧
      after = marked.filter (fun entry => !finished entry) ∧
      ∀ entry ∈ marked, finished entry = true →
        (entry.kind = .request ∧ ∃ acceptance ∈ accepted,
          acceptance.Genuine ∧ acceptance.peerId = entry.peerId) ∨
        (entry.kind = .accept ∧ entry.delivered = true)

def Finishes (deliveredNow : List OutboxEntry) (accepted : List Acceptance)
    (entry : OutboxEntry) : Prop :=
  entry.kind = .request ∧ entry.peerId ∈ accepted.map (·.peerId) ∨
    entry.kind = .accept ∧
      (entry.delivered = true ∨ entry.key ∈ deliveredNow.map key)

/-- The sync has something to change of the entry. -/
def Touches (deliveredNow : List OutboxEntry) (accepted : List Acceptance)
    (entry : OutboxEntry) : Prop :=
  entry.key ∈ deliveredNow.map key ∨ Finishes deliveredNow accepted entry

variable {outbox : List OutboxEntry}

theorem Unique.without (unique : Unique outbox) (peerId : String)
    (kind : RequestKind) : Unique (without peerId kind outbox) := by
  unfold Unique
  rw [without_keys]
  exact unique.filter _

theorem Unique.put (unique : Unique outbox) {entry : OutboxEntry}
    {kind : RequestKind} (own : entry.kind = kind) :
    Unique (Outbox.without entry.peerId kind outbox ++ [entry]) := by
  unfold Unique
  rw [List.map_append, without_keys, ← own]
  refine List.nodup_append.mpr ⟨unique.filter _, List.nodup_singleton _, ?_⟩
  intro first kept second put same
  rw [List.map_singleton, List.mem_singleton] at put
  have other := (List.mem_filter.mp kept).2
  rw [same, put] at other
  exact (bne_iff_ne.mp other) rfl

theorem Unique.merge (unique : Unique outbox)
    (deliveredNow : List OutboxEntry) (acceptedPeers : List String) :
    Unique (merge deliveredNow acceptedPeers outbox) :=
  unique.sublist (merge_keys_sublist deliveredNow acceptedPeers outbox)

theorem Marked.refl (deliveredNow : List OutboxEntry)
    (entry : OutboxEntry) : Marked deliveredNow entry entry :=
  ⟨rfl, .inl⟩

theorem Marked.trans {deliveredNow : List OutboxEntry}
    {first second third : OutboxEntry}
    (early : Marked deliveredNow first second)
    (late : Marked deliveredNow second third) :
    Marked deliveredNow first third := by
  refine ⟨late.fixed.trans early.fixed, fun delivered => ?_⟩
  rcases late.delivered delivered with old | done
  · exact early.delivered old
  · change second.fixed.key ∈ _ at done
    rw [early.fixed] at done
    exact .inr done

private theorem marks_trans {deliveredNow first second third :
    List OutboxEntry}
    (early : List.Forall₂ (Marked deliveredNow) first second)
    (late : List.Forall₂ (Marked deliveredNow) second third) :
    List.Forall₂ (Marked deliveredNow) first third := by
  induction early generalizing third with
  | nil => exact late
  | cons own _ induction =>
      cases late with
      | cons other rest => exact .cons (own.trans other) (induction rest)

private theorem exists_marked {deliveredNow before marked :
    List OutboxEntry}
    (pairs : List.Forall₂ (Marked deliveredNow) before marked)
    {entry : OutboxEntry} (member : entry ∈ before) :
    ∃ new ∈ marked, Marked deliveredNow entry new := by
  induction pairs with
  | nil => exact absurd member List.not_mem_nil
  | cons own _ induction =>
      cases List.mem_cons.mp member with
      | inl same => exact ⟨_, List.mem_cons_self, same ▸ own⟩
      | inr later =>
          obtain ⟨new, listed, marked⟩ := induction later
          exact ⟨new, List.mem_cons_of_mem _ listed, marked⟩

private theorem markFirst_marked {deliveredNow : List OutboxEntry}
    {done : OutboxEntry} (member : done ∈ deliveredNow)
    (outbox : List OutboxEntry) :
    List.Forall₂ (Marked deliveredNow) outbox (markFirst done outbox) := by
  induction outbox with
  | nil => exact .nil
  | cons entry rest induction =>
      unfold markFirst
      split
      · next own =>
        refine .cons ⟨rfl, fun _ => .inr ?_⟩ ?_
        · rw [own]
          exact List.mem_map_of_mem member
        · exact List.forall₂_same.mpr fun other _ => .refl _ other
      · exact .cons (.refl _ entry) induction

private theorem markAll_marked {deliveredNow done : List OutboxEntry}
    (delivered : done ⊆ deliveredNow) (outbox : List OutboxEntry) :
    List.Forall₂ (Marked deliveredNow) outbox (markAll done outbox) := by
  induction done generalizing outbox with
  | nil => exact List.forall₂_same.mpr fun entry _ => .refl _ entry
  | cons first rest induction =>
      obtain ⟨member, others⟩ := List.cons_subset.mp delivered
      exact marks_trans (markFirst_marked member outbox)
        (induction others _)

section Merge

variable {deliveredNow : List OutboxEntry} {accepted : List Acceptance}

private theorem mergeFrame_merge
    (genuine : ∀ acceptance ∈ accepted, acceptance.Genuine)
    (deliveredNow outbox : List OutboxEntry) :
    MergeFrame deliveredNow accepted outbox
      (Outbox.merge deliveredNow (accepted.map (·.peerId)) outbox) := by
  refine ⟨markAll deliveredNow outbox,
    complete (accepted.map (·.peerId)),
    markAll_marked (List.Subset.refl _) outbox, rfl, ?_⟩
  intro entry _ finished
  unfold complete at finished
  cases kind : entry.kind with
  | accept => exact .inr ⟨rfl, by simpa [kind] using finished⟩
  | request =>
      have listed : entry.peerId ∈ accepted.map (·.peerId) := by
        simpa [kind] using finished
      obtain ⟨acceptance, member, same⟩ := List.mem_map.mp listed
      exact .inl ⟨rfl, acceptance, member, genuine acceptance member, same⟩

private theorem mergeFrame_refl (deliveredNow : List OutboxEntry)
    (accepted : List Acceptance) (outbox : List OutboxEntry) :
    MergeFrame deliveredNow accepted outbox outbox :=
  ⟨outbox, fun _ => false, List.forall₂_same.mpr fun entry _ => .refl _ entry,
    by simp, fun _ _ never => absurd never Bool.false_ne_true⟩

/-- All entries may go exactly if the sync is done with all of them. -/
private theorem mergeFrame_nil_iff
    (genuine : ∀ acceptance ∈ accepted, acceptance.Genuine) :
    MergeFrame deliveredNow accepted outbox [] ↔
      ∀ entry ∈ outbox, Finishes deliveredNow accepted entry := by
  constructor
  · rintro ⟨marked, finished, pairs, empty, allowed⟩ entry member
    obtain ⟨new, listed, own⟩ := exists_marked pairs member
    have gone : finished new = true := by
      simpa using List.filter_eq_nil_iff.mp empty.symm new listed
    have sameKind : new.kind = entry.kind := congrArg (·.kind) own.fixed
    have samePeer : new.peerId = entry.peerId :=
      congrArg (·.peerId) own.fixed
    rcases allowed new listed gone with
      ⟨request, acceptance, consumed, _, same⟩ | ⟨accept, delivered⟩
    · refine .inl ⟨sameKind ▸ request, ?_⟩
      exact List.mem_map.mpr ⟨acceptance, consumed, same.trans samePeer⟩
    · exact .inr ⟨sameKind ▸ accept, own.delivered delivered⟩
  · intro finishes
    let mark : OutboxEntry → OutboxEntry := fun entry =>
      if entry.key ∈ deliveredNow.map key then
        { entry with delivered := true }
      else entry
    have fixed : ∀ entry, (mark entry).fixed = entry.fixed := by
      intro entry
      simp only [mark]
      split <;> rfl
    refine ⟨outbox.map mark, fun _ => true, ?_, by simp, ?_⟩
    · refine List.forall₂_map_right_iff.mpr (List.forall₂_same.mpr ?_)
      intro entry _
      refine ⟨fixed entry, fun delivered => ?_⟩
      simp only [mark] at delivered
      split at delivered
      · exact .inr ‹_›
      · exact .inl delivered
    · intro new listed _
      obtain ⟨entry, member, rfl⟩ := List.mem_map.mp listed
      have sameKind : (mark entry).kind = entry.kind :=
        congrArg (·.kind) (fixed entry)
      have samePeer : (mark entry).peerId = entry.peerId :=
        congrArg (·.peerId) (fixed entry)
      rw [sameKind, samePeer]
      rcases finishes entry member with ⟨request, listed⟩ | ⟨accept, done⟩
      · obtain ⟨acceptance, consumed, same⟩ := List.mem_map.mp listed
        exact .inl ⟨request, acceptance, consumed,
          genuine acceptance consumed, same⟩
      · refine .inr ⟨accept, ?_⟩
        simp only [mark]
        split
        · rfl
        · exact done.resolve_right ‹_›

private theorem markings_ne_nil_iff :
    markings deliveredNow outbox ≠ [] ↔
      ∃ entry ∈ outbox, entry.key ∈ deliveredNow.map key := by
  constructor
  · intro some
    obtain ⟨marking, member⟩ := List.exists_mem_of_ne_nil _ some
    obtain ⟨done, found⟩ := mem_markings.mp member
    have own : marking.entry.key = marking.done.key := by
      simpa using List.find?_some found
    exact ⟨marking.entry, List.mem_of_find?_eq_some found,
      own ▸ List.mem_map_of_mem done⟩
  · rintro ⟨entry, member, listed⟩ none
    obtain ⟨done, delivered, own⟩ := List.mem_map.mp listed
    cases found : outbox.find? (fun other => other.key = done.key) with
    | none =>
        have other := List.find?_eq_none.mp found entry member
        exact other (by simpa using own.symm)
    | some first =>
        have marked : (⟨done, first⟩ : Marking) ∈
            markings deliveredNow outbox :=
          mem_markings.mpr ⟨delivered, found⟩
        rw [none] at marked
        exact List.not_mem_nil marked

private theorem complete_iff_finishes {entry : OutboxEntry}
    (undelivered : entry.key ∉ deliveredNow.map key) :
    complete (accepted.map (·.peerId)) entry = true ↔
      Finishes deliveredNow accepted entry := by
  unfold complete Finishes
  simp [undelivered]

private theorem mergeSync_changes_iff :
    (mergeSync deliveredNow (accepted.map (·.peerId)) outbox).1 = true ↔
      ∃ entry ∈ outbox, Touches deliveredNow accepted entry := by
  by_cases marks : markings deliveredNow outbox = []
  · have unmarked : ∀ entry ∈ outbox, entry.key ∉ deliveredNow.map key :=
      fun entry member listed =>
        markings_ne_nil_iff.mpr ⟨entry, member, listed⟩ marks
    have shorter : (mergeSync deliveredNow (accepted.map (·.peerId))
        outbox).1 = true ↔
          (outbox.filter fun entry =>
            !complete (accepted.map (·.peerId)) entry).length ≠
              outbox.length := by
      unfold mergeSync merge
      rw [marks, markAll_of_no_markings deliveredNow marks]
      simp
    rw [shorter, Ne, List.length_filter_eq_length_iff]
    simp only [not_forall, Bool.not_eq_true', Bool.not_eq_false,
      exists_prop]
    refine exists_congr fun entry => and_congr_right fun member => ?_
    rw [complete_iff_finishes (unmarked entry member)]
    exact (or_iff_right (unmarked entry member)).symm
  · obtain ⟨entry, member, listed⟩ := markings_ne_nil_iff.mp marks
    refine iff_of_true ?_ ⟨entry, member, .inl listed⟩
    simp [mergeSync, marks]

end Merge

end Outbox

theorem Friends.deliver_fixed (friends : Friends) (answer : DeliverAnswer)
    (entry : OutboxEntry) :
    (friends.deliver answer entry).2.1.fixed = entry.fixed := by
  obtain ⟨deliveries, own, delivered, same, _, fixed, _⟩ :=
    friends.deliver_spec answer entry
  rw [same]
  exact fixed

private theorem Friends.deliver_kind (friends : Friends)
    (answer : DeliverAnswer)
    (entry : OutboxEntry) :
    (friends.deliver answer entry).2.1.kind = entry.kind :=
  congrArg (·.kind) (friends.deliver_fixed answer entry)

theorem OutboxEntry.withDisplay_key (entry : OutboxEntry)
    (myDisplay : String) : (entry.withDisplay myDisplay).key = entry.key := by
  unfold withDisplay
  split <;> rfl

private theorem Friends.consumeRow_genuine {friends : Friends}
    {file : FileUse String} {deleted : Bool}
    {policy : FriendRequestPolicy} {row : FriendRequestEntry} :
    ∀ acceptance ∈ (friends.consumeRow file deleted policy row).2,
      acceptance.Genuine := by
  intro acceptance consumed
  obtain ⟨contacts, parked, found, same, ⟨_, none, _⟩ |
      ⟨parsed, accept, valid, _, _, some⟩⟩ :=
    friends.consumeRow_spec file deleted policy row
  · rw [same, none] at consumed
    cases consumed
  · rw [same, some] at consumed
    cases consumed
    obtain ⟨target, named, _⟩ := targetFromCode_of_validate valid
    exact ⟨accept, target, parsed.identityPubkey, named, rfl⟩

namespace FriendTask

/-- The entries of a command are of its kind, and what a sync has consumed are
acceptances. -/
def Proper : FriendTask → Prop
  | delivering entry | putting entry | redelivering entry
  | puttingBack entry => entry.kind = .request
  | queueing entry => entry.kind = .accept
  | consuming _ _ _ accepted | merging _ accepted =>
      ∀ acceptance ∈ accepted, acceptance.Genuine
  | _ => True

theorem proper_enter (command : FriendCommand) : (enter command).Proper := by
  cases command <;> trivial

theorem proper_advance {task : FriendTask} (proper : task.Proper)
    (friends : Friends) (input : FriendInput) :
    (advance friends task input).2.Proper := by
  cases task with
  | sending code myDisplay =>
      simp only [advance]
      obtain same | ⟨target, identity, _, _, same⟩ :=
        send_cases input code myDisplay
      · rw [same]
        trivial
      · rw [same]
        rfl
  | delivering entry => exact (friends.deliver_kind _ _).trans proper
  | redelivering entry => exact (friends.deliver_kind _ _).trans proper
  | looking peerId myDisplay =>
      simp only [advance]
      obtain same | ⟨entry, _, own, same⟩ :=
        look_cases (input.outboxFile.read [] friends.outbox) peerId
          myDisplay
      · rw [same]
        trivial
      · rw [same]
        exact congrArg Prod.snd ((entry.withDisplay_key myDisplay).trans own)
  | retrying todo deliveredNow myDisplay =>
      cases todo with
      | nil =>
          simp only [advance]
          obtain same | ⟨rows, same⟩ := list_cases friends input deliveredNow
          · rw [same]
            trivial
          · rw [same]
            exact fun _ member => absurd member List.not_mem_nil
      | cons entry rest =>
          simp only [advance]
          obtain same | same := retry_cases friends input entry rest
            deliveredNow myDisplay
          · rw [same]
            trivial
          · rw [same]
            trivial
  | consuming rows policy deliveredNow accepted =>
      cases rows with
      | nil => exact proper
      | cons row rest =>
          intro acceptance member
          cases List.mem_append.mp member with
          | inl old => exact proper acceptance old
          | inr new =>
              exact Friends.consumeRow_genuine acceptance
                (Option.mem_toList.mp new)
  | responding id code accept myDisplay =>
      simp only [advance]
      obtain ⟨contacts, next, same, kinds⟩ :=
        respond_cases friends input id code accept myDisplay
      rw [same]
      obtain rfl | rfl | rfl := kinds <;> trivial
  | accepting code myDisplay =>
      simp only [advance]
      obtain same | ⟨target, identity, _, same⟩ :=
        accept_cases friends input code myDisplay
      · rw [same]
        trivial
      · rw [same]
        exact friends.deliver_kind _ _
  | putting | puttingBack | syncing | merging | declining | clearing
  | queueing | cancelling | done => trivial

private theorem revision_unique {task : FriendTask} (proper : task.Proper)
    {outbox : List OutboxEntry} (unique : Outbox.Unique outbox) :
    Outbox.Unique (task.revision outbox).2 := by
  cases task with
  | putting entry => exact unique.put proper
  | puttingBack entry => exact unique.put proper
  | queueing entry =>
      simp only [revision, Outbox.queueAcceptance]
      cases entry.delivered with
      | true =>
          rw [if_pos rfl, List.append_nil]
          exact unique.without _ _
      | false => exact unique.put proper
  | cancelling peerId => exact unique.without _ _
  | merging deliveredNow accepted => exact unique.merge _ _
  | sending | delivering | looking | redelivering | syncing | retrying
  | consuming | responding | declining | clearing | accepting
  | done => exact unique

end FriendTask

namespace FriendPool

def start (contacts : List StoredContact)
    (parked : List FriendRequestEntry) : FriendPool where
  shared := { contacts, parked }

def Unique (pool : FriendPool) : Prop :=
  Outbox.Unique pool.shared.outbox

/-- If the event is the merge of a sync, it stays within its frame. -/
def Framed (pool : FriendPool) : FriendEvent → Prop
  | .start _ => True
  | .turn index input => ∀ deliveredNow accepted,
      pool.tasks[index]? = some (.merging deliveredNow accepted) →
        Outbox.MergeFrame deliveredNow accepted pool.shared.outbox
          (friendMachine.step pool (.turn index input)).shared.outbox

/-- If the write of a merge is torn, its sync has nothing to change in the
outbox, or is done with all of it. -/
def SparesOutbox (pool : FriendPool) : FriendEvent → Prop
  | .start _ => True
  | .turn index input => ∀ deliveredNow accepted cause size,
      pool.tasks[index]? = some (.merging deliveredNow accepted) →
        input.outboxFile = ⟨true, .torn cause size⟩ →
          (∃ entry ∈ pool.shared.outbox,
            Outbox.Touches deliveredNow accepted entry) →
          ∀ entry ∈ pool.shared.outbox,
            Outbox.Finishes deliveredNow accepted entry

abbrev Orderly (pool : FriendPool) : Prop :=
  pool.Suits (fun friends => Outbox.Unique friends.outbox)
    fun _ task => task.Proper

theorem Orderly.step {pool : FriendPool} (orderly : pool.Orderly)
    (event : FriendEvent) : Orderly (friendMachine.step pool event) := by
  refine Tasks.Pool.Suits.step orderly
    (fun command _ => FriendTask.proper_enter command) ?_
  intro index task input _ _ proper
  constructor
  · change Outbox.Unique (FriendTask.advance _ _ _).1.outbox
    rw [FriendTask.advance_outbox]
    exact input.outboxFile.rewrite_keeps Outbox.Unique List.nodup_nil
      (fun _ => FriendTask.revision_unique proper) orderly.shared
  · exact FriendTask.proper_advance proper _ _
  · exact fun _ proper => proper

/-- A merge stays within its frame unless a torn write loses entries. -/
private theorem rewrite_framed_iff {deliveredNow : List OutboxEntry}
    {accepted : List Acceptance}
    (genuine : ∀ acceptance ∈ accepted, acceptance.Genuine)
    (file : FileUse String) (outbox : List OutboxEntry) :
    Outbox.MergeFrame deliveredNow accepted outbox
        (file.rewrite []
          (Outbox.mergeSync deliveredNow (accepted.map (·.peerId)))
          outbox) ↔
      ∀ cause size, file = ⟨true, .torn cause size⟩ →
        (∃ entry ∈ outbox, Outbox.Touches deliveredNow accepted entry) →
          ∀ entry ∈ outbox, Outbox.Finishes deliveredNow accepted entry := by
  have unchanged : Outbox.MergeFrame deliveredNow accepted outbox outbox :=
    Outbox.mergeFrame_refl deliveredNow accepted outbox
  by_cases changes : (Outbox.mergeSync deliveredNow
      (accepted.map (·.peerId)) (file.read [] outbox)).1 = true
  · rw [FileUse.rewrite_of_changes changes]
    obtain ⟨reads, write⟩ := file
    cases reads with
    | false =>
        obtain ⟨entry, never, _⟩ := Outbox.mergeSync_changes_iff.mp changes
        exact absurd never List.not_mem_nil
    | true =>
        cases write with
        | done =>
            refine iff_of_true ?_ fun _ _ torn => ?_
            · exact Outbox.mergeFrame_merge genuine deliveredNow outbox
            · cases torn
        | unopened cause =>
            refine iff_of_true unchanged fun _ _ torn => ?_
            cases torn
        | torn cause size =>
            refine (Outbox.mergeFrame_nil_iff genuine).trans ?_
            constructor
            · exact fun finishes _ _ _ _ => finishes
            · intro spares
              exact spares cause size rfl
                (Outbox.mergeSync_changes_iff.mp changes)
  · have same : file.rewrite []
        (Outbox.mergeSync deliveredNow (accepted.map (·.peerId))) outbox =
          outbox := if_neg changes
    rw [same]
    refine iff_of_true unchanged fun cause size torn touched => ?_
    subst torn
    exact absurd (Outbox.mergeSync_changes_iff.mpr touched) changes

private theorem Orderly.framed_iff {pool : FriendPool} (orderly : pool.Orderly)
    (event : FriendEvent) : pool.Framed event ↔ pool.SparesOutbox event := by
  cases event with
  | start command => exact Iff.rfl
  | turn index input =>
      have merged : ∀ deliveredNow accepted,
          pool.tasks[index]? = some (.merging deliveredNow accepted) →
            (friendMachine.step pool (.turn index input)).shared.outbox =
                input.outboxFile.rewrite [] (Outbox.mergeSync deliveredNow
                  (accepted.map (·.peerId))) pool.shared.outbox ∧
              ∀ acceptance ∈ accepted, acceptance.Genuine := by
        intro deliveredNow accepted found
        rw [Tasks.Machine.step_turn found]
        exact ⟨FriendTask.advance_outbox pool.shared _ input,
          orderly.tasks _ (List.mem_of_getElem? found)⟩
      constructor
      · intro framed deliveredNow accepted cause size found
        obtain ⟨same, genuine⟩ := merged deliveredNow accepted found
        have kept := framed deliveredNow accepted found
        rw [same, rewrite_framed_iff genuine] at kept
        exact kept cause size
      · intro spares deliveredNow accepted found
        obtain ⟨same, genuine⟩ := merged deliveredNow accepted found
        rw [same, rewrite_framed_iff genuine]
        exact fun cause size => spares deliveredNow accepted cause size found

private theorem orderly_start (contacts : List StoredContact)
    (parked : List FriendRequestEntry) :
    (start contacts parked).Orderly :=
  ⟨List.nodup_nil, fun _ member => absurd member List.not_mem_nil⟩

/-- There never are two entries for a peer and kind; and every merge stays
within its frame exactly where no torn write loses entries. -/
theorem unique_and_framed_iff (contacts : List StoredContact)
    (parked : List FriendRequestEntry) (events : List FriendEvent) :
    EventRun.Always friendMachine.step Unique (start contacts parked)
        events ∧
      (EventRun.Each friendMachine.step Framed (start contacts parked)
          events ↔
        EventRun.Each friendMachine.step SparesOutbox
          (start contacts parked) events) := by
  have orderly : EventRun.Always friendMachine.step Orderly
      (start contacts parked) events := by
    refine EventRun.always_of_kept ?_ ?_ events
    · exact fun _ event holds => Orderly.step holds event
    · exact orderly_start contacts parked
  refine ⟨orderly.imp fun _ holds => holds.shared, ?_⟩
  exact EventRun.Each.congr
    (fun _ event (holds : Orderly _) => holds.framed_iff event)
    (orderly.each fun _ _ holds => holds)

/-- A sync has delivered the request that is queued, and the disk is full when
it merges. -/
theorem torn_merge_unframed :
    ¬EventRun.Each friendMachine.step Framed (start [] [])
      [.start (.send peerCode "Ann"), .turn 0 {}, .turn 0 {}, .turn 0 {},
        .start (.sync "Ann"), .turn 1 {},
        .turn 1 { answer := .acknowledged none }, .turn 1 {}, .turn 1 {},
        .turn 1 { outboxFile := ⟨true, .torn "disk full" 0⟩ }] := by
  rintro ⟨-, -, -, -, -, -, -, -, -, framed, -⟩
  have emptied : Outbox.MergeFrame [{ peerRequest with delivered := true }] []
      [peerRequest] [] := framed _ _ rfl
  have finished := (Outbox.mergeFrame_nil_iff (by simp)).mp emptied
    peerRequest (List.mem_singleton_self _)
  obtain ⟨_, never⟩ | ⟨never, _⟩ := finished
  · exact List.not_mem_nil never
  · cases never

end FriendPool

end Accord
