import Accord.Server.Messaging.CommitRelay
import Accord.Server.Messaging.Routing

/-! Which devices a Commit reaches.  It is only put to open streams: nothing
queues it for a device that is away. -/

namespace Accord

namespace CommitRoom

/-- Every device that a Commit was for has been put it on a stream, or has it
in its inbox. -/
def CommitsReach (room : CommitRoom) : Prop :=
  ∀ posted ∈ room.posted, ∀ device ∈ posted.owed,
    device ∈ posted.reached ∨
      ⟨device, .commit, posted.groupId, posted.commit⟩ ∈
        room.mail.store.inbox

/-- The device listens to the group on a live stream whose buffer has room. -/
def Hears (room : CommitRoom) (full : List ℕ) (group device : Uuid) :
    Prop :=
  ∃ (channel : ℕ) (stream : MailStream),
    room.mail.registry.subscription group device = some channel ∧
      channel ∉ full ∧ room.mail.streams[channel]? = some stream ∧
      stream.live = true

/-- No Commit is published past a member device that does not listen. -/
def NoneAway (room : CommitRoom) : CommitEvent → Prop
  | .publish index full => ∀ claims groupId req,
      room.tasks[index]? = some ⟨claims, groupId, req, .publishing⟩ →
      ∀ device ∈ room.owed ⟨claims, groupId, req, .publishing⟩,
        room.Hears full groupId device
  | _ => True

end CommitRoom

/-! A channel belongs to the device it is registered for. -/

namespace Mailroom

structure Owned (mail : Mailroom) : Prop where
  subscription : ∀ group device channel,
    mail.registry.subscription group device = some channel →
    ∃ stream, mail.streams[channel]? = some stream ∧
      stream.claims.deviceId = device
  sender : ∀ device channel, mail.registry.senderOf device = some channel →
    ∃ stream, mail.streams[channel]? = some stream ∧
      stream.claims.deviceId = device

variable {mail : Mailroom}

/-- Streams are added and move on, and keep their devices. -/
def SameOwners (before after : List MailStream) : Prop :=
  ∀ (index : ℕ) (stream : MailStream), before[index]? = some stream →
    ∃ moved, after[index]? = some moved ∧ moved.claims = stream.claims

private theorem sameOwners_append (streams : List MailStream)
    (stream : MailStream) :
    SameOwners streams (streams ++ [stream]) := by
  intro index other stored
  exact ⟨other, Slots.getElem?_append_of_found stored stream, rfl⟩

private theorem sameOwners_setPhase {index : ℕ} {stream : MailStream}
    (found : mail.streams[index]? = some stream) (phase : StreamPhase) :
    SameOwners mail.streams (mail.setPhase index stream phase) := by
  intro other another stored
  refine ⟨if other = index then { stream with phase } else another, ?_, ?_⟩
  · rw [setPhase, Slots.getElem?_set_of_found found, stored]
    split <;> rfl
  · split
    · rename_i same
      subst same
      rw [stored] at found
      cases found
      rfl
    · rfl

theorem Owned.moved (owned : mail.Owned) {after : Mailroom}
    (registry : after.registry = mail.registry)
    (streams : SameOwners mail.streams after.streams) : after.Owned := by
  have carry : ∀ {device : Uuid} {channel : ℕ},
      (∃ stream, mail.streams[channel]? = some stream ∧
        stream.claims.deviceId = device) →
      ∃ stream, after.streams[channel]? = some stream ∧
        stream.claims.deviceId = device := by
    rintro device channel ⟨stream, stored, rfl⟩
    obtain ⟨moved, still, same⟩ := streams channel stream stored
    exact ⟨moved, still, by rw [same]⟩
  constructor
  · intro group device channel subscribed
    rw [registry] at subscribed
    exact carry (owned.subscription group device channel subscribed)
  · intro device channel sender
    rw [registry] at sender
    exact carry (owned.sender device channel sender)

theorem Owned.register (owned : mail.Owned) (index : ℕ) :
    (mail.register index).Owned := by
  unfold Mailroom.register
  cases found : mail.inPhase index .listed with
  | none => exact owned
  | some stream =>
      obtain ⟨stored, -⟩ := inPhase_found found
      have moved := sameOwners_setPhase stored .registered
      have own := moved index stream stored
      have kept : Owned { mail with
          streams := mail.setPhase index stream .registered } :=
        owned.moved rfl moved
      constructor
      · intro group device channel subscribed
        simp only [Registry.subscription_register] at subscribed
        split at subscribed
        · rename_i here
          obtain ⟨-, rfl⟩ := here
          cases subscribed
          obtain ⟨after, still, same⟩ := own
          exact ⟨after, still, by rw [same]⟩
        · exact kept.subscription group device channel subscribed
      · intro device channel sender
        simp only [Registry.senderOf_register] at sender
        split at sender
        · rename_i here
          subst here
          cases sender
          obtain ⟨after, still, same⟩ := own
          exact ⟨after, still, by rw [same]⟩
        · exact kept.sender device channel sender

theorem Owned.drain (owned : mail.Owned) (codec : InboxCodec) (index : ℕ) :
    (mail.drain codec index).Owned := by
  unfold Mailroom.drain
  cases found : mail.inPhase index .registered with
  | none => exact owned
  | some stream =>
      exact owned.moved rfl
        (sameOwners_setPhase (inPhase_found found).1 .reading)

theorem Owned.close (owned : mail.Owned) (index : ℕ) :
    (mail.close index).Owned := by
  unfold Mailroom.close
  cases found : mail.inPhase index .reading with
  | none => exact owned
  | some stream =>
      have kept : Owned { mail with
          streams := mail.setPhase index stream .ended } :=
        owned.moved rfl (sameOwners_setPhase (inPhase_found found).1 .ended)
      constructor
      · intro group device channel subscribed
        simp only [Registry.subscription_unregister] at subscribed
        split at subscribed
        · cases subscribed
        · exact kept.subscription group device channel subscribed
      · intro device channel sender
        simp only [Registry.senderOf_unregister] at sender
        split at sender
        · cases sender
        · exact kept.sender device channel sender

theorem Owned.subscribe (owned : mail.Owned) (device group : Uuid)
    (received : List Receipt) :
    Owned { mail with
      registry := mail.registry.subscribe device group, received } := by
  cases connected : mail.registry.senderOf device with
  | none =>
      refine owned.moved ?_ fun _ stream stored => ⟨stream, stored, rfl⟩
      exact Registry.subscribe_disconnected _ _ _ connected
  | some own =>
      constructor
      · intro target other channel subscribed
        simp only [Registry.subscription_subscribe other group connected]
          at subscribed
        split at subscribed
        · rename_i here
          obtain ⟨-, rfl⟩ := here
          cases subscribed
          exact owned.sender other own connected
        · exact owned.subscription target other channel subscribed
      · intro other channel sender
        rw [Registry.senderOf_subscribe] at sender
        exact owned.sender other channel sender

end Mailroom

namespace CommitRoom

variable {room : CommitRoom}

/-- Every Commit has reached its devices live, and none is in an inbox. -/
structure Relayed (room : CommitRoom) : Prop where
  owned : room.mail.Owned
  uncommitted : ∀ row ∈ room.mail.store.inbox, row.kind ≠ .commit
  settled : ∀ posted ∈ room.posted, ∀ device ∈ posted.owed,
    device ∈ posted.reached

private theorem Relayed.commitsReach (relayed : room.Relayed) :
    room.CommitsReach :=
  fun posted member device owed =>
    .inl (relayed.settled posted member device owed)

private theorem mem_reached (owned : room.mail.Owned) (full : List ℕ)
    (groupId : Uuid) (commit : Bytes) (sender device : Uuid) :
    device ∈ (accepted room.mail full (room.mail.registry.route
        (.commit groupId commit 0 sender))).map (·.device) ↔
      device ≠ sender ∧ room.Hears full groupId device := by
  unfold accepted Mailroom.arrivals
  simp only [List.mem_map, List.mem_filterMap, List.mem_filter,
    Option.map_eq_some_iff, Option.filter_eq_some_iff,
    Bool.not_eq_true', List.contains_eq_mem, decide_eq_false_iff_not]
  constructor
  · rintro ⟨_, ⟨⟨channel, offered⟩, ⟨member, hasRoom⟩, stream,
      ⟨stored, live⟩, rfl⟩, rfl⟩
    obtain ⟨-, key, subscribed, other⟩ := Registry.mem_deliverToGroup.mp member
    obtain ⟨own, found, same⟩ := owned.subscription groupId key channel
      subscribed
    rw [stored] at found
    cases found
    subst same
    exact ⟨fun equal => other (congrArg some equal),
      channel, stream, subscribed, hasRoom, stored, live⟩
  · rintro ⟨other, channel, stream, subscribed, hasRoom, stored, live⟩
    obtain ⟨own, found, rfl⟩ := owned.subscription groupId device channel
      subscribed
    rw [stored] at found
    cases found
    refine ⟨⟨stream.claims.deviceId, .commitNotification groupId commit 0⟩,
      ⟨(channel, .commitNotification groupId commit 0), ⟨?_, hasRoom⟩,
        stream, ⟨stored, live⟩, rfl⟩, rfl⟩
    exact Registry.mem_deliverToGroup.mpr
      ⟨rfl, _, subscribed, fun equal => other (Option.some.inj equal)⟩

private theorem ne_sender_of_owed {task : CommitTask} {device : Uuid}
    (owed : device ∈ room.owed task) : device ≠ task.claims.deviceId := by
  simpa using (List.mem_filter.mp owed).2

private theorem uncommitted_queueWelcome (groupId : Uuid)
    (target : WelcomeTarget) :
    (MlsRelaySvc.queueWelcome groupId target).Keeps fun store =>
      ∀ row ∈ store.inbox, row.kind ≠ .commit := by
  have parses : (MlsRelaySvc.targetDevice target).ReadOnly :=
    (Effect.readOnly_ofOption _ _).bind fun _ =>
      Effect.readOnly_ofOption _ _
  refine parses.keeps.bind fun device => ?_
  refine Effect.Keeps.bind (Effect.Keeps.mapError ?_ _) fun _ =>
    (Effect.readOnly_pure _).keeps
  refine (Effect.readOnly_check _ _).keeps.bind fun _ => ?_
  refine Effect.keeps_update fun store uncommitted row member => ?_
  cases List.mem_append.mp member with
  | inl before => exact uncommitted row before
  | inr added =>
      cases List.mem_singleton.mp added
      exact nofun

private theorem relayed_publish {index : ℕ} {full : List ℕ}
    (relayed : room.Relayed)
    (noneAway : room.NoneAway (.publish index full)) :
    (room.publish index full).Relayed := by
  unfold publish
  split
  · rename_i claims groupId req found
    refine ⟨relayed.owned.moved rfl fun _ stream stored =>
      ⟨stream, stored, rfl⟩, relayed.uncommitted, ?_⟩
    intro posted member device owed
    cases List.mem_append.mp member with
    | inl before => exact relayed.settled posted before device owed
    | inr added =>
        cases List.mem_singleton.mp added
        exact (mem_reached relayed.owned full groupId req.commit
          claims.deviceId device).mpr ⟨ne_sender_of_owed owed,
            noneAway claims groupId req found device owed⟩
  · exact relayed

private theorem relayed_drain (codec : InboxCodec) (index : ℕ)
    (relayed : room.Relayed) : (room.drain codec index).Relayed := by
  have inbox : ∀ row ∈ (room.mail.drain codec index).store.inbox,
      row ∈ room.mail.store.inbox := by
    intro row member
    unfold Mailroom.drain at member
    cases found : room.mail.inPhase index .registered with
    | none =>
        rw [found] at member
        exact member
    | some stream =>
        rw [found] at member
        exact (List.mem_filter.mp member).1
  have same : (room.drain codec index).posted = room.posted := by
    unfold CommitRoom.drain
    cases room.mail.inPhase index .registered with
    | none => rfl
    | some stream =>
        have untouched : ∀ posted : Posted, Posted.drained
            stream.claims.deviceId (room.mail.store.drainInbox
              stream.claims.deviceId).1 posted = posted := by
          intro posted
          refine if_neg ?_
          rw [List.any_eq_true]
          rintro ⟨row, drained, matching⟩
          have listed := (List.mem_filter.mp drained).1
          simp only [Bool.and_eq_true, beq_iff_eq] at matching
          exact relayed.uncommitted row listed matching.1.1
        exact (List.map_congr_left fun posted _ => untouched posted).trans
          (List.map_id _)
  refine ⟨relayed.owned.drain codec index, ?_, ?_⟩
  · exact fun row member => relayed.uncommitted row (inbox row member)
  · rw [same]
    exact relayed.settled

private theorem relayed_relay (index : ℕ) (relayed : room.Relayed) :
    (room.relay index).Relayed := by
  unfold relay
  split
  · exact ⟨relayed.owned, relayed.uncommitted, relayed.settled⟩
  · rename_i claims groupId req target rest found
    have uncommitted := uncommitted_queueWelcome groupId target
      room.mail.store relayed.uncommitted
    rcases queued : MlsRelaySvc.queueWelcome groupId target
      room.mail.store with ⟨result, store⟩
    rw [queued] at uncommitted
    have kept : Mailroom.Owned { room.mail with store } :=
      relayed.owned.moved rfl fun _ stream stored => ⟨stream, stored, rfl⟩
    cases result with
    | ok device => exact ⟨kept, uncommitted, relayed.settled⟩
    | error status => exact ⟨kept, uncommitted, relayed.settled⟩
  · exact relayed

private theorem relayed_announce (index : ℕ) (full : List ℕ)
    (relayed : room.Relayed) : (room.announce index full).Relayed := by
  unfold announce
  split
  · exact ⟨relayed.owned.subscribe _ _ _, relayed.uncommitted,
      relayed.settled⟩
  · exact relayed

private theorem relayed_step (codec : InboxCodec) (room : CommitRoom)
    (event : CommitEvent) (relayed : room.Relayed)
    (noneAway : room.NoneAway event) : (room.step codec event).Relayed := by
  cases event with
  | lookup claims =>
      refine ⟨relayed.owned.moved rfl ?_, relayed.uncommitted,
        relayed.settled⟩
      exact Mailroom.sameOwners_append _ _
  | register index =>
      refine ⟨relayed.owned.register index, ?_, relayed.settled⟩
      simp only [step, Mailroom.register]
      split
      · exact relayed.uncommitted
      · exact relayed.uncommitted
  | drain index => exact relayed_drain codec index relayed
  | close index =>
      refine ⟨relayed.owned.close index, ?_, relayed.settled⟩
      simp only [step, Mailroom.close]
      split
      · exact relayed.uncommitted
      · exact relayed.uncommitted
  | sendCommit claims req =>
      simp only [step, sendCommit]
      split
      · exact ⟨relayed.owned, relayed.uncommitted, relayed.settled⟩
      · exact relayed
  | publish index full => exact relayed_publish relayed noneAway
  | relay index => exact relayed_relay index relayed
  | announce index full => exact relayed_announce index full relayed

/-- A member device that does not listen has lost the Commit: it is not in its
inbox. -/
private theorem not_commitsReach_of_away (codec : InboxCodec)
    (room : CommitRoom)
    (event : CommitEvent) (relayed : room.Relayed)
    (away : ¬room.NoneAway event) :
    ¬(room.step codec event).CommitsReach := by
  cases event with
  | publish index full =>
      simp only [NoneAway, not_forall] at away
      obtain ⟨claims, groupId, req, found, device, owed, deaf⟩ := away
      have after : (room.step codec (.publish index full)).posted =
          room.posted ++ [⟨groupId, req.commit,
            room.owed ⟨claims, groupId, req, .publishing⟩,
            (accepted room.mail full (room.mail.registry.route
              (.commit groupId req.commit 0 claims.deviceId))).map
                (·.device)⟩] ∧
          (room.step codec (.publish index full)).mail.store.inbox =
            room.mail.store.inbox := by
        simp only [step, publish, found, and_self]
      intro reach
      have outcome := reach _
        (after.1 ▸ List.mem_append_right _ List.mem_cons_self) device owed
      cases outcome with
      | inl reached =>
          exact deaf ((mem_reached relayed.owned full groupId req.commit
            claims.deviceId device).mp reached).2
      | inr queued =>
          rw [after.2] at queued
          exact relayed.uncommitted _ queued rfl
  | _ => exact absurd trivial away

/-- Commits reach the members as long as none of their devices is away when
one is published. -/
theorem commitsReach_iff (codec : InboxCodec) (store : Store)
    (uncommitted : ∀ row ∈ store.inbox, row.kind ≠ .commit)
    (events : List CommitEvent) :
    EventRun.Always (step codec) CommitsReach { mail := { store } } events ↔
      EventRun.Each (step codec) NoneAway { mail := { store } } events := by
  have initially : Relayed { mail := { store } } :=
    ⟨⟨nofun, nofun⟩, uncommitted, nofun⟩
  exact EventRun.always_iff_each_of (fun _ => Relayed.commitsReach)
    (relayed_step codec) (not_commitsReach_of_away codec) initially events

end CommitRoom

def pairStore : Store where
  users := [
    ⟨1, "ann", "Ann", "", true, false, none, ""⟩,
    ⟨2, "bob", "Bob", "", false, false, none, ""⟩]
  devices := [⟨21, 1, "desk", none⟩, ⟨22, 2, "phone", none⟩]
  groups := [⟨7, "chat", "", .priv, .text, "", 0⟩]
  groupMembers := [⟨7, 1, "owner"⟩, ⟨7, 2, "member"⟩]

def openStream (claims : Claims) (stream : ℕ) : List CommitEvent :=
  [.lookup claims, .register stream, .drain stream]

def commitByAnn : List CommitEvent := [
  .sendCommit ⟨1, 21⟩ ⟨some (.uuid 7), [5], []⟩, .publish 0 [], .relay 0]

open CommitRoom in
theorem away_device_loses :
    (∀ row ∈ pairStore.inbox, row.kind ≠ .commit) ∧
      ¬EventRun.Always (step InboxCodec.json) CommitsReach
        { mail := { store := pairStore } }
        (openStream ⟨1, 21⟩ 0 ++ commitByAnn) := by
  refine ⟨by decide, fun always => ?_⟩
  have reach := always.last ⟨7, [5], [22], []⟩ (by decide) 22 (by decide)
  exact absurd reach (by decide)

open CommitRoom in
theorem listening_devices_reached :
    EventRun.Always (step InboxCodec.json) CommitsReach
      { mail := { store := pairStore } }
      (openStream ⟨1, 21⟩ 0 ++ openStream ⟨2, 22⟩ 1 ++ commitByAnn) := by
  refine (commitsReach_iff InboxCodec.json pairStore (by decide) _).mpr ?_
  refine ⟨trivial, trivial, trivial, trivial, trivial, trivial, trivial, ?_,
    trivial, trivial⟩
  intro claims groupId req found device owed
  cases found
  obtain rfl : device = 22 := List.mem_singleton.mp owed
  exact ⟨1, ⟨⟨2, 22⟩, [7], .reading⟩, rfl, by decide, rfl, rfl⟩

end Accord
