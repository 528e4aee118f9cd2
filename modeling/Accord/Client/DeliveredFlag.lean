import Accord.Client.OutboxFrame

/-! The delivered flag.  A sync marks the entries it has delivered in the
outbox as it is by then, by peer and kind. -/

namespace Accord

open EventRun

/-- A delivery of the entry's kind has reached the node and the user that its
code names. -/
def OutboxEntry.ReportedIn (deliveries : List FriendDelivery)
    (entry : OutboxEntry) : Prop :=
  ⟨entry.kind, entry.peerCode⟩ ∈ deliveries

namespace Friends

/-- Flagged entries were delivered, acceptances that were finished with as
well, and no undelivered entry was marked for a delivery to another code. -/
structure Sound (friends : Friends) : Prop where
  outbox : ∀ entry ∈ friends.outbox, entry.delivered = true →
    entry.ReportedIn friends.deliveries
  completed : ∀ entry ∈ friends.completed, entry.ReportedIn friends.deliveries
  markings : ∀ marking ∈ friends.markings, marking.entry.delivered = false →
    marking.entry.peerCode = marking.done.peerCode

end Friends

namespace Outbox

open OutboxEntry

/-- An undelivered entry that the merge finds for one of its deliveries still
carries the code it was delivered to. -/
def StillCarries (deliveredNow outbox : List OutboxEntry) : Prop :=
  ∀ marking ∈ markings deliveredNow outbox, marking.entry.delivered = false →
    marking.entry.peerCode = marking.done.peerCode

private theorem find_markFirst (done : OutboxEntry) (outbox : List OutboxEntry)
    (key : String × RequestKind) :
    (markFirst done outbox).find? (fun entry => entry.key = key) =
      (outbox.find? fun entry => entry.key = key).map fun entry =>
        if key = done.key then done.mark entry else entry := by
  induction outbox with
  | nil => rfl
  | cons entry rest induction =>
      unfold markFirst
      by_cases own : entry.key = done.key
      · have markKey : (done.mark entry).key = entry.key := rfl
        rw [if_pos own, List.find?_cons, List.find?_cons, markKey]
        by_cases named : entry.key = key
        · simp [named, named.symm.trans own]
        · simp only [named, decide_false]
          cases found : rest.find? fun entry => entry.key = key with
          | none => rfl
          | some other =>
              have differs : key ≠ done.key :=
                fun same => named (own.trans same.symm)
              rw [Option.map_some, if_neg differs]
      · rw [if_neg own, List.find?_cons, List.find?_cons]
        by_cases named : entry.key = key
        · have differs : key ≠ done.key :=
            fun same => own (named.trans same)
          simp [named, differs]
        · simp only [named, decide_false]
          exact induction

private theorem mem_markFirst {done entry : OutboxEntry}
    {outbox : List OutboxEntry}
    (member : entry ∈ markFirst done outbox) :
    entry ∈ outbox ∨ ∃ old,
      outbox.find? (fun entry => entry.key = done.key) = some old ∧
        entry = done.mark old := by
  induction outbox with
  | nil => exact .inl member
  | cons first rest induction =>
      unfold markFirst at member
      rw [List.find?_cons]
      by_cases own : first.key = done.key
      · rw [if_pos own] at member
        simp only [own, decide_true]
        cases List.mem_cons.mp member with
        | inl same => exact .inr ⟨first, rfl, same⟩
        | inr later => exact .inl (List.mem_cons_of_mem _ later)
      · rw [if_neg own] at member
        simp only [own, decide_false]
        cases List.mem_cons.mp member with
        | inl same => exact .inl (same ▸ List.mem_cons_self)
        | inr later =>
            exact (induction later).imp (List.mem_cons_of_mem _) id

theorem StillCarries.markFirst {done : OutboxEntry}
    {rest outbox : List OutboxEntry}
    (carries : StillCarries (done :: rest) outbox) :
    StillCarries rest (Outbox.markFirst done outbox) := by
  intro marking member undelivered
  obtain ⟨listed, found⟩ := mem_markings.mp member
  rw [find_markFirst] at found
  obtain ⟨entry, before, same⟩ := Option.map_eq_some_iff.mp found
  by_cases own : marking.done.key = done.key
  · rw [if_pos own] at same
    rw [← same] at undelivered
    cases undelivered
  · rw [if_neg own] at same
    refine carries marking (mem_markings.mpr ⟨?_, same ▸ before⟩) undelivered
    exact List.mem_cons_of_mem _ listed

private theorem reported_markAll {deliveries : List FriendDelivery}
    {deliveredNow outbox : List OutboxEntry}
    (done : ∀ entry ∈ deliveredNow, entry.ReportedIn deliveries)
    (carries : StillCarries deliveredNow outbox)
    (sound : ∀ entry ∈ outbox, entry.delivered = true →
      entry.ReportedIn deliveries) :
    ∀ entry ∈ markAll deliveredNow outbox, entry.delivered = true →
      entry.ReportedIn deliveries := by
  induction deliveredNow generalizing outbox with
  | nil => exact sound
  | cons first rest induction =>
      refine induction
        (fun entry member => done entry (List.mem_cons_of_mem _ member))
        carries.markFirst ?_
      intro entry member delivered
      obtain old | ⟨old, found, rfl⟩ := mem_markFirst member
      · exact sound entry old delivered
      · cases already : old.delivered with
        | true =>
            exact sound old (List.mem_of_find?_eq_some found) already
        | false =>
            have sameCode : old.peerCode = first.peerCode := by
              refine carries ⟨first, old⟩ (mem_markings.mpr ?_) already
              exact ⟨List.mem_cons_self, found⟩
            have sameKey : old.key = first.key := by
              simpa using List.find?_some found
            have sameKind : old.kind = first.kind :=
              congrArg Prod.snd sameKey
            have reported := done first List.mem_cons_self
            unfold ReportedIn at reported
            rwa [← sameKind, ← sameCode] at reported

end Outbox

namespace Friends

variable {friends : Friends}

/-- Nothing that was delivered is undone, and nothing is marked. -/
structure Grows (before after : Friends) : Prop where
  deliveries : before.deliveries ⊆ after.deliveries
  completed : after.completed = before.completed
  markings : after.markings = before.markings

theorem Grows.refl (friends : Friends) : Grows friends friends :=
  ⟨List.Subset.refl _, rfl, rfl⟩

private theorem deliver_grows (friends : Friends) (answer : DeliverAnswer)
    (entry : OutboxEntry) :
    Grows friends (friends.deliver answer entry).1 := by
  obtain ⟨deliveries, own, delivered, same, kept, _⟩ :=
    friends.deliver_spec answer entry
  rw [same]
  exact ⟨kept, rfl, rfl⟩

theorem deliver_reported {answer : DeliverAnswer} {entry : OutboxEntry}
    (delivered : (friends.deliver answer entry).2.2 = true) :
    (friends.deliver answer entry).2.1.ReportedIn
      (friends.deliver answer entry).1.deliveries := by
  obtain ⟨deliveries, own, flag, same, _, fixed, reported⟩ :=
    friends.deliver_spec answer entry
  rw [same] at delivered ⊢
  have sameKind : own.kind = entry.kind := congrArg (·.kind) fixed
  have sameCode : own.peerCode = entry.peerCode := congrArg (·.peerCode) fixed
  unfold OutboxEntry.ReportedIn
  rw [sameKind, sameCode]
  exact reported delivered

private theorem deleteParked_grows (friends : Friends) (deleted : Bool)
    (id : String) : Grows friends (friends.deleteParked deleted id) := by
  obtain ⟨parked, same⟩ := friends.deleteParked_spec deleted id
  rw [same]
  exact ⟨List.Subset.refl _, rfl, rfl⟩

private theorem consumeRow_grows (friends : Friends) (file : FileUse String)
    (deleted : Bool) (policy : FriendRequestPolicy)
    (row : FriendRequestEntry) :
    Grows friends (friends.consumeRow file deleted policy row).1 := by
  obtain ⟨contacts, parked, acceptance, same, _⟩ :=
    friends.consumeRow_spec file deleted policy row
  rw [same]
  exact ⟨List.Subset.refl _, rfl, rfl⟩

private theorem updateOutbox_grows (friends : Friends) (file : FileUse String)
    (mutate : List OutboxEntry → Bool × List OutboxEntry) :
    Grows friends (friends.updateOutbox file mutate) :=
  ⟨List.Subset.refl _, rfl, rfl⟩

private theorem mergeSync_deliveries (friends : Friends) (file : FileUse String)
    (deliveredNow : List OutboxEntry) (acceptedPeers : List String) :
    (friends.mergeSync file deliveredNow acceptedPeers).deliveries =
      friends.deliveries := by
  unfold mergeSync
  dsimp only
  split <;> rfl

private theorem mergeSync_unstored {file : FileUse String} (fails : file ≠ {})
    (sound : friends.Sound) (deliveredNow : List OutboxEntry)
    (acceptedPeers : List String) :
    (friends.mergeSync file deliveredNow acceptedPeers).Sound := by
  have same : friends.mergeSync file deliveredNow acceptedPeers =
      friends.updateOutbox file
        (Outbox.mergeSync deliveredNow acceptedPeers) := if_neg fails
  rw [same]
  refine ⟨?_, sound.completed, sound.markings⟩
  obtain ⟨reads, write⟩ := file
  unfold updateOutbox FileUse.rewrite
  dsimp only
  split
  · next changes =>
    cases write with
    | unopened cause => exact sound.outbox
    | torn cause size => exact fun _ never => absurd never List.not_mem_nil
    | done =>
        cases reads with
        | true => exact absurd rfl fails
        | false =>
            have none := Outbox.mergeSync_nil deliveredNow acceptedPeers
            exact absurd (none.symm.trans changes) Bool.false_ne_true
  · exact sound.outbox

/-- A merge keeps the flags right exactly if what it marks is what was
delivered. -/
private theorem mergeSync_sound {deliveredNow : List OutboxEntry}
    (done : ∀ entry ∈ deliveredNow, entry.ReportedIn friends.deliveries)
    (sound : friends.Sound) (file : FileUse String)
    (acceptedPeers : List String) :
    (friends.mergeSync file deliveredNow acceptedPeers).Sound ↔
      (file = {} → Outbox.StillCarries deliveredNow friends.outbox) := by
  by_cases works : file = {}
  · have stored : (friends.mergeSync file deliveredNow
        acceptedPeers).outbox =
          Outbox.merge deliveredNow acceptedPeers friends.outbox := by
      rw [friends.mergeSync_outbox]
      exact FileUse.rewrite_of_works works Outbox.mergeSync_unchanged
    have deliveries :=
      friends.mergeSync_deliveries file deliveredNow acceptedPeers
    have recorded : friends.mergeSync file deliveredNow acceptedPeers =
        { friends.updateOutbox file
            (Outbox.mergeSync deliveredNow acceptedPeers) with
          markings := friends.markings ++
            Outbox.markings deliveredNow friends.outbox
          completed := friends.completed ++
            (Outbox.markAll deliveredNow friends.outbox).filter fun entry =>
              entry.kind == .accept && entry.delivered } := if_pos works
    constructor
    · intro after _ marking member
      refine after.markings marking ?_
      rw [recorded]
      exact List.mem_append_right _ member
    · intro carries
      have marked := Outbox.reported_markAll done (carries works) sound.outbox
      refine ⟨?_, ?_, ?_⟩
      · rw [stored, deliveries]
        intro entry member
        exact marked entry (List.mem_of_mem_filter member)
      · rw [deliveries, recorded]
        intro entry member
        cases List.mem_append.mp member with
        | inl old => exact sound.completed entry old
        | inr new =>
            have flagged := List.of_mem_filter new
            rw [Bool.and_eq_true] at flagged
            exact marked entry (List.mem_of_mem_filter new) flagged.2
      · rw [recorded]
        intro marking member
        cases List.mem_append.mp member with
        | inl old => exact sound.markings marking old
        | inr new => exact carries works marking new
  · exact iff_of_true (mergeSync_unstored works sound _ _)
      fun never => absurd never works

end Friends

namespace FriendTask

open Friends

/-- What the task is going to flag or to mark was delivered. -/
def Reports (friends : Friends) : FriendTask → Prop
  | putting entry | puttingBack entry | queueing entry =>
      entry.delivered = true → entry.ReportedIn friends.deliveries
  | retrying _ deliveredNow _ | consuming _ _ deliveredNow _
  | merging deliveredNow _ =>
      ∀ entry ∈ deliveredNow, entry.ReportedIn friends.deliveries
  | _ => True

variable {friends : Friends} {task : FriendTask}

theorem Reports.of_subset {after : Friends} (reports : task.Reports friends)
    (kept : friends.deliveries ⊆ after.deliveries) : task.Reports after := by
  cases task with
  | putting | puttingBack | queueing =>
      exact fun delivered => kept (reports delivered)
  | retrying | consuming | merging =>
      exact fun entry member => kept (reports entry member)
  | _ => trivial

private theorem reports_enter (friends : Friends) (command : FriendCommand) :
    (enter command).Reports friends := by
  cases command <;> trivial

private theorem retry_reports {entry : OutboxEntry}
    {todo deliveredNow : List OutboxEntry} {myDisplay : String}
    {input : FriendInput}
    (reports : ∀ entry ∈ deliveredNow, entry.ReportedIn friends.deliveries) :
    Grows friends (retry friends entry todo deliveredNow myDisplay input).1 ∧
      (retry friends entry todo deliveredNow myDisplay input).2.Reports
        (retry friends entry todo deliveredNow myDisplay input).1 := by
  obtain same | same := retry_cases friends input entry todo deliveredNow
    myDisplay
  · rw [same]
    exact ⟨.refl friends, reports⟩
  · rw [same]
    have grows := friends.deliver_grows input.answer
      (entry.withDisplay myDisplay)
    refine ⟨grows, fun other member => ?_⟩
    split at member
    · cases List.mem_append.mp member with
      | inl old => exact grows.deliveries (reports other old)
      | inr new =>
          rw [List.mem_singleton.mp new]
          exact deliver_reported ‹_›
    · exact grows.deliveries (reports other member)

private theorem reports_advance (reports : task.Reports friends)
    (unmerged : ∀ deliveredNow accepted, task ≠ merging deliveredNow accepted)
    (input : FriendInput) :
    Grows friends (advance friends task input).1 ∧
      (advance friends task input).2.Reports
        (advance friends task input).1 := by
  cases task with
  | delivering entry | redelivering entry =>
      exact ⟨friends.deliver_grows _ _, deliver_reported⟩
  | putting | puttingBack | queueing | cancelling =>
      exact ⟨friends.updateOutbox_grows _ _, trivial⟩
  | declining | clearing => exact ⟨friends.deleteParked_grows _ _, trivial⟩
  | merging deliveredNow accepted =>
      exact absurd rfl (unmerged deliveredNow accepted)
  | accepting code myDisplay =>
      simp only [advance]
      obtain same | ⟨target, identity, _, same⟩ :=
        accept_cases friends input code myDisplay
      · rw [same]
        exact ⟨.refl friends, trivial⟩
      · rw [same]
        exact ⟨friends.deliver_grows _ _, deliver_reported⟩
  | responding id code answer myDisplay =>
      simp only [advance]
      obtain ⟨contacts, next, same, kinds⟩ :=
        respond_cases friends input id code answer myDisplay
      rw [same]
      refine ⟨⟨List.Subset.refl _, rfl, rfl⟩, ?_⟩
      obtain rfl | rfl | rfl := kinds <;> trivial
  | retrying todo deliveredNow myDisplay =>
      cases todo with
      | cons entry rest => exact retry_reports reports
      | nil =>
          simp only [advance]
          obtain same | ⟨rows, same⟩ := list_cases friends input deliveredNow
          · rw [same]
            exact ⟨.refl friends, trivial⟩
          · rw [same]
            exact ⟨⟨List.Subset.refl _, rfl, rfl⟩, reports⟩
  | consuming rows policy deliveredNow accepted =>
      cases rows with
      | nil => exact ⟨.refl friends, reports⟩
      | cons row rest =>
          have grows := friends.consumeRow_grows input.contactsFile
            input.deleted
            policy row
          exact ⟨grows,
            fun entry member => grows.deliveries (reports entry member)⟩
  | sending code myDisplay =>
      refine ⟨.refl friends, ?_⟩
      simp only [advance]
      obtain same | ⟨target, identity, _, _, same⟩ :=
        send_cases input code myDisplay
      · rw [same]
        trivial
      · rw [same]
        trivial
  | looking other myDisplay =>
      refine ⟨.refl friends, ?_⟩
      simp only [advance]
      obtain same | ⟨entry, _, _, same⟩ :=
        look_cases (input.outboxFile.read [] friends.outbox) other myDisplay
      · rw [same]
        trivial
      · rw [same]
        trivial
  | syncing =>
      refine ⟨.refl friends, ?_⟩
      exact fun _ member => absurd member List.not_mem_nil
  | done => exact ⟨.refl friends, trivial⟩

private theorem revision_reported (reports : task.Reports friends)
    (unmerged : ∀ deliveredNow accepted, task ≠ merging deliveredNow accepted)
    {outbox : List OutboxEntry}
    (sound : ∀ entry ∈ outbox, entry.delivered = true →
      entry.ReportedIn friends.deliveries) :
    ∀ entry ∈ (task.revision outbox).2, entry.delivered = true →
      entry.ReportedIn friends.deliveries := by
  intro entry member
  cases task with
  | putting own | puttingBack own =>
      cases List.mem_append.mp member with
      | inl old => exact sound entry (List.mem_of_mem_filter old)
      | inr new =>
          rw [List.mem_singleton.mp new]
          exact reports
  | queueing own =>
      cases List.mem_append.mp member with
      | inl old => exact sound entry (List.mem_of_mem_filter old)
      | inr new =>
          split at new
          · exact absurd new List.not_mem_nil
          · rw [List.mem_singleton.mp new]
            exact reports
  | cancelling => exact sound entry (List.mem_of_mem_filter member)
  | merging deliveredNow accepted =>
      exact absurd rfl (unmerged deliveredNow accepted)
  | _ => exact sound entry member

end FriendTask

namespace FriendPool

open FriendTask

/-- If the event is the merge of a sync, what it marks still carries the code
that the sync delivered to. -/
def CarriesDelivered (pool : FriendPool) : FriendEvent → Prop
  | .start _ => True
  | .turn index input => ∀ deliveredNow accepted,
      pool.tasks[index]? = some (.merging deliveredNow accepted) →
        input.outboxFile = {} →
          Outbox.StillCarries deliveredNow pool.shared.outbox

abbrev Reliable (pool : FriendPool) : Prop :=
  pool.Suits Friends.Sound fun friends task => task.Reports friends

variable {pool : FriendPool}

private theorem serves_merge {deliveredNow : List OutboxEntry}
    {accepted : List Acceptance} {input : FriendInput}
    (sound : pool.shared.Sound)
    (reports : (merging deliveredNow accepted).Reports pool.shared)
    (carries : input.outboxFile = {} →
      Outbox.StillCarries deliveredNow pool.shared.outbox) :
    friendMachine.Serves Friends.Sound
      (fun friends task => task.Reports friends) pool.shared
      (merging deliveredNow accepted) input := by
  refine ⟨(Friends.mergeSync_sound reports sound _ _).mpr carries, trivial, ?_⟩
  intro other good
  refine good.of_subset fun delivery member => ?_
  exact (pool.shared.mergeSync_deliveries _ _ _).symm ▸ member

private theorem serves_unmerged {task : FriendTask} {input : FriendInput}
    (sound : pool.shared.Sound) (reports : task.Reports pool.shared)
    (unmerged : ∀ deliveredNow accepted, task ≠ merging deliveredNow accepted) :
    friendMachine.Serves Friends.Sound
      (fun friends task => task.Reports friends) pool.shared task input := by
  obtain ⟨grows, own⟩ := reports_advance reports unmerged input
  refine ⟨⟨?_, ?_, ?_⟩, own, fun other good => good.of_subset grows.deliveries⟩
  · change ∀ entry ∈ (advance _ _ _).1.outbox, _
    rw [advance_outbox]
    have flagged := input.outboxFile.rewrite_keeps
      (fun outbox : List OutboxEntry => ∀ entry ∈ outbox,
        entry.delivered = true → entry.ReportedIn pool.shared.deliveries)
      (fun _ never => absurd never List.not_mem_nil)
      (fun _ holds => revision_reported reports unmerged holds) sound.outbox
    exact fun entry member delivered =>
      grows.deliveries (flagged entry member delivered)
  · change ∀ entry ∈ (advance _ _ _).1.completed, _
    rw [grows.completed]
    exact fun entry member => grows.deliveries (sound.completed entry member)
  · change ∀ marking ∈ (advance _ _ _).1.markings, _
    rw [grows.markings]
    exact sound.markings

theorem Reliable.step (reliable : pool.Reliable) {event : FriendEvent}
    (carries : pool.CarriesDelivered event) :
    Reliable (friendMachine.step pool event) := by
  refine Tasks.Pool.Suits.step reliable
    (fun command _ => reports_enter pool.shared command) ?_
  intro index task input taken found reports
  subst taken
  cases task with
  | merging deliveredNow accepted =>
      exact serves_merge reliable.shared reports
        (carries deliveredNow accepted found)
  | _ => exact serves_unmerged reliable.shared reports fun _ _ => nofun

theorem Reliable.broken (reliable : pool.Reliable) {event : FriendEvent}
    (loses : ¬pool.CarriesDelivered event) :
    ¬(friendMachine.step pool event).shared.Sound := by
  intro sound
  refine loses ?_
  cases event with
  | start command => trivial
  | turn index input =>
      intro deliveredNow accepted found
      have reports := reliable.tasks _ (List.mem_of_getElem? found)
      rw [Tasks.Machine.step_turn found] at sound
      exact (Friends.mergeSync_sound reports reliable.shared _ _).mp sound

/-- The flags are right throughout exactly the runs in which every merge marks
what its sync delivered. -/
theorem flags_sound_iff (contacts : List StoredContact)
    (parked : List FriendRequestEntry) (events : List FriendEvent) :
    Always friendMachine.step (fun pool => pool.shared.Sound)
        (start contacts parked) events ↔
      Each friendMachine.step CarriesDelivered (start contacts parked)
        events := by
  have reliable : (start contacts parked).Reliable := by
    refine ⟨⟨?_, ?_, ?_⟩, ?_⟩
    all_goals exact fun _ member => absurd member List.not_mem_nil
  have sound : ∀ pool : FriendPool, pool.Reliable → pool.shared.Sound :=
    fun _ holds => holds.shared
  exact always_iff_each_of sound (fun _ _ holds => Reliable.step holds)
    (fun _ _ holds => Reliable.broken holds) reliable events

/-- A sync delivers the request to the peer's node; before it merges, a code
of the same peer with another user id has replaced the first. -/
theorem replaced_code_flagged :
    ¬Always friendMachine.step (fun pool => pool.shared.Sound) (start [] [])
      [.start (.send peerCode "Ann"), .turn 0 {}, .turn 0 {}, .turn 0 {},
        .start (.sync "Ann"), .turn 1 {},
        .turn 1 { answer := .acknowledged none },
        .start (.send movedCode "Ann"), .turn 2 {}, .turn 2 {}, .turn 2 {},
        .turn 1 {}, .turn 1 {}, .turn 1 {}] := by
  intro always
  refine absurd always.last.outbox ?_
  unfold OutboxEntry.ReportedIn
  decide +kernel

end FriendPool

end Accord
