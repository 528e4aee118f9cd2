import Accord.Server.Messaging.VoiceRoster

/-! What the devices of a voice channel know of its roster.  A device that is
told of the changes in an order other than theirs keeps what is no longer so:
the roster a join found is sent after the lock was let go, and a leave may
have been announced before. -/

namespace Accord

structure VoiceParcel where
  target : Option Uuid
  news : VoiceParticipant

/-- The message goes to the device, or to its whole channel. -/
def VoiceParcel.IsFor (parcel : VoiceParcel) (device : Uuid) : Prop :=
  parcel.target = none ∨ parcel.target = some device

instance (parcel : VoiceParcel) (device : Uuid) :
    Decidable (parcel.IsFor device) :=
  inferInstanceAs (Decidable (_ ∨ _))

namespace VoiceHub

def hear (group device : Uuid) (roster : Mapping Uuid VoiceState) :
    VoiceEntry → Mapping Uuid VoiceState
  | .entered into newcomer =>
      if into = group ∧ newcomer = device then ∅ else roster
  | .got target news =>
      if target = device ∧ news.groupId = group then news.apply roster
      else roster

/-- The roster a device has of a channel: what it was told, in order, since it
came in. -/
def view (hub : VoiceHub) (group device : Uuid) : Mapping Uuid VoiceState :=
  hub.log.foldl (hear group device) ∅

/-- The device is in the channel, and connected. -/
structure Present (hub : VoiceHub) (group device : Uuid) : Prop where
  joined : (hub.voice.get group device).isSome = true
  connected : hub.registry.isConnected device = true

def Subscribed (hub : VoiceHub) (group device : Uuid) : Prop :=
  (hub.registry.subscription group device).isSome = true

/-- The message says what the roster says. -/
def Current (hub : VoiceHub) (news : VoiceParticipant) : Prop :=
  news.content = hub.voice.get news.groupId news.device

instance (hub : VoiceHub) (news : VoiceParticipant) :
    Decidable (hub.Current news) :=
  inferInstanceAs (Decidable (_ = _))

end VoiceHub

namespace VoiceTask

def pending : VoiceTask → List VoiceParcel
  | announcing news burst =>
      ⟨none, news⟩ :: burst.map (⟨some news.device, ·⟩)
  | sending target rest => rest.map (⟨target, ·⟩)
  | _ => []

def next (input : VoiceInput) : VoiceTask → Option VoiceParcel
  | announcing news _ => some ⟨none, news⟩
  | sending target rest => rest[input.pick]?.map (⟨target, ·⟩)
  | _ => none

/-- The device and the channel of a call that has subscribed, and has still to
change the roster. -/
def subscriber? : VoiceTask → Option (Uuid × Uuid)
  | reading claims group _ => some (claims.deviceId, group)
  | _ => none

/-- A message is on its way to the device that says of the other one what the
roster says. -/
def Tells (task : VoiceTask) (hub : VoiceHub) (group device other : Uuid) :
    Prop :=
  ∃ parcel ∈ task.pending, parcel.IsFor device ∧
    parcel.news.groupId = group ∧ parcel.news.device = other ∧
    hub.Current parcel.news

end VoiceTask

instance (task : VoiceTask) : Decidable (task = .done) :=
  match task with
  | .done => isTrue rfl
  | .checking _ _ => isFalse nofun
  | .reading _ _ _ => isFalse nofun
  | .announcing _ _ => isFalse nofun
  | .sending _ _ => isFalse nofun
  | .disconnecting _ => isFalse nofun
  | .dropping _ => isFalse nofun

namespace VoicePool

def Quiet (pool : VoicePool) : Prop :=
  ∀ task ∈ pool.tasks, task = .done

instance (pool : VoicePool) : Decidable (Quiet pool) :=
  inferInstanceAs (Decidable (∀ task ∈ pool.tasks, task = .done))

/-- When no call is in flight, every device of a channel knows its roster. -/
def Agrees (pool : VoicePool) : Prop :=
  Quiet pool → ∀ group device, pool.shared.Present group device →
    ∀ other, AList.lookup other (pool.shared.view group device) =
      pool.shared.voice.get group other

/-- A message that is put to a device of the channel is current, or one that
is current is on its way to the device from another call. -/
def Timely (pool : VoicePool) : VoiceEvent → Prop
  | .start _ => True
  | .turn index input =>
      ∀ task parcel device, pool.tasks[index]? = some task →
        task.next input = some parcel → parcel.IsFor device →
        pool.shared.Present parcel.news.groupId device →
        pool.shared.Current parcel.news ∨
          ∃ later ∈ pool.tasks.eraseIdx index, later.Tells pool.shared
            parcel.news.groupId device parcel.news.device

end VoicePool

structure VoiceKept (hub : VoiceHub) (tasks : List VoiceTask) : Prop where
  subscribed : ∀ group device, hub.Present group device →
    hub.Subscribed group device
  reading : ∀ task ∈ tasks, ∀ subscriber ∈ task.subscriber?,
    hub.registry.isConnected subscriber.1 = true →
    hub.Subscribed subscriber.2 subscriber.1
  informed : ∀ group device, hub.Present group device → ∀ other,
    AList.lookup other (hub.view group device) = hub.voice.get group other ∨
      ∃ task ∈ tasks, task.Tells hub group device other

namespace VoiceHub

variable {hub : VoiceHub}

section View

private theorem view_append (more : List VoiceEntry) (group device : Uuid) :
    { hub with log := hub.log ++ more }.view group device =
      more.foldl (hear group device) (hub.view group device) := by
  unfold view
  rw [List.foldl_append]

private theorem lookup_hear_got (devices : List Uuid) (news : VoiceParticipant)
    (group device other : Uuid) (roster : Mapping Uuid VoiceState) :
    AList.lookup other ((devices.map (.got · news)).foldl
        (hear group device) roster) =
      if device ∈ devices ∧ news.groupId = group ∧ other = news.device then
        news.content
      else
        roster.lookup other := by
  induction devices generalizing roster with
  | nil => simp
  | cons first rest induction =>
      rw [List.map_cons, List.foldl_cons, induction]
      by_cases heard : first = device ∧ news.groupId = group
      · have told : hear group device roster (.got first news) =
            news.apply roster := if_pos heard
        obtain ⟨rfl, rfl⟩ := heard
        rw [told, VoiceParticipant.lookup_apply]
        by_cases about : other = news.device
        · simp [about]
        · simp [about]
      · have missed : hear group device roster (.got first news) = roster :=
          if_neg heard
        rw [missed]
        by_cases same : news.groupId = group
        · have apart : first ≠ device := fun equal => heard ⟨equal, same⟩
          simp [same, apart.symm]
        · simp [same]

private theorem mem_listeners {group device : Uuid} :
    device ∈ (hub.registry.groupSubs.row group).keys ↔
      hub.Subscribed group device := by
  unfold Subscribed Registry.subscription Nested.get
  rw [AList.lookup_isSome]
  rfl

/-- A device of the channel is told what is sent to it or to the channel, and
nothing else. -/
private theorem lookup_view_send {group device : Uuid}
    (connected : hub.registry.isConnected device = true)
    (subscribed : hub.Subscribed group device) (parcel : VoiceParcel)
    (other : Uuid) :
    AList.lookup other
        ((hub.send parcel.target parcel.news).view group device) =
      if parcel.IsFor device ∧ parcel.news.groupId = group ∧
          other = parcel.news.device then
        parcel.news.content
      else
        (hub.view group device).lookup other := by
  obtain ⟨target, news⟩ := parcel
  cases target with
  | none =>
      change AList.lookup other (VoiceHub.view { hub with
        log := hub.log ++ _ } group device) = _
      rw [view_append, lookup_hear_got]
      by_cases same : news.groupId = group
      · subst same
        simp [mem_listeners, subscribed, VoiceParcel.IsFor]
      · simp [same]
  | some receiver =>
      simp only [send, sendToDevice]
      by_cases same : receiver = device
      · subst same
        rw [if_pos connected]
        change AList.lookup other (VoiceHub.view { hub with
          log := hub.log ++ [receiver].map (.got · news) } group
            receiver) = _
        rw [view_append, lookup_hear_got]
        simp [VoiceParcel.IsFor]
      · have apart : ¬ VoiceParcel.IsFor ⟨some receiver, news⟩ device := by
          simp [VoiceParcel.IsFor, same]
        simp only [apart, false_and, if_false]
        by_cases reachable : hub.registry.isConnected receiver = true
        · rw [if_pos reachable]
          change AList.lookup other (VoiceHub.view { hub with
            log := hub.log ++ [receiver].map (.got · news) } group
              device) = _
          rw [view_append, lookup_hear_got]
          simp [Ne.symm same]
        · rw [if_neg reachable]

@[simp] theorem send_voice (target : Option Uuid) (news : VoiceParticipant) :
    (hub.send target news).voice = hub.voice := by
  cases target with
  | none => rfl
  | some device =>
      simp only [send, sendToDevice]
      split <;> rfl

@[simp] theorem send_registry (target : Option Uuid)
    (news : VoiceParticipant) :
    (hub.send target news).registry = hub.registry := by
  cases target with
  | none => rfl
  | some device =>
      simp only [send, sendToDevice]
      split <;> rfl

end View

end VoiceHub

namespace VoiceTask

variable {task : VoiceTask} {hub after : VoiceHub}
  {group device other : Uuid}

theorem Tells.of_same (tells : task.Tells hub group device other)
    (same : after.voice.get group other = hub.voice.get group other) :
    task.Tells after group device other := by
  obtain ⟨parcel, pending, isFor, rfl, rfl, current⟩ := tells
  exact ⟨parcel, pending, isFor, rfl, rfl, Eq.trans current same.symm⟩

private theorem tells_rest {old : VoiceTask} {rest : List VoiceTask}
    (silent : old.pending = [])
    (told : ∃ task ∈ old :: rest, task.Tells hub group device other) :
    ∃ task ∈ rest, task.Tells hub group device other := by
  obtain ⟨task, listed, tells⟩ := told
  cases List.mem_cons.mp listed with
  | inl first =>
      obtain ⟨parcel, pending, _⟩ := tells
      rw [first, silent] at pending
      cases pending
  | inr listed => exact ⟨task, listed, tells⟩

end VoiceTask

namespace VoiceKept

variable {hub : VoiceHub} {old : VoiceTask} {rest : List VoiceTask}

theorem of_mem {tasks others : List VoiceTask}
    (kept : VoiceKept hub tasks) (same : ∀ task, task ∈ others ↔ task ∈ tasks) :
    VoiceKept hub others where
  subscribed := kept.subscribed
  reading := fun task listed => kept.reading task ((same task).mp listed)
  informed := by
    intro group device present other
    refine (kept.informed group device present other).imp id ?_
    intro told
    obtain ⟨task, listed, tells⟩ := told
    exact ⟨task, (same task).mpr listed, tells⟩

private theorem reading_rest (kept : VoiceKept hub (old :: rest))
    {new : VoiceTask}
    (passive : new.subscriber? = none) :
    ∀ task ∈ new :: rest, ∀ subscriber ∈ task.subscriber?,
      hub.registry.isConnected subscriber.1 = true →
      hub.Subscribed subscriber.2 subscriber.1 := by
  refine List.forall_mem_cons.mpr
    ⟨?_, (List.forall_mem_cons.mp kept.reading).2⟩
  intro subscriber held
  rw [passive] at held
  cases held

/-- The entry is as it was, or the call is about to announce it. -/
def Announced (hub after : VoiceHub) (new : VoiceTask)
    (group other : Uuid) : Prop :=
  after.voice.get group other = hub.voice.get group other ∨
    ∃ parcel ∈ new.pending, parcel.target = none ∧
      parcel.news.groupId = group ∧ parcel.news.device = other ∧
      parcel.news.content = after.voice.get group other

private theorem informed_change (kept : VoiceKept hub (old :: rest))
    (silent : old.pending = []) {after : VoiceHub} {new : VoiceTask}
    {group device other : Uuid}
    (announced : Announced hub after new group other)
    (present : hub.Present group device) :
    AList.lookup other (hub.view group device) =
        after.voice.get group other ∨
      ∃ task ∈ new :: rest, task.Tells after group device other := by
  cases announced with
  | inl same =>
      rw [same]
      refine (kept.informed group device present other).imp id ?_
      intro told
      obtain ⟨task, listed, tells⟩ := VoiceTask.tells_rest silent told
      exact ⟨task, List.mem_cons_of_mem _ listed, tells.of_same same⟩
  | inr announced =>
      obtain ⟨parcel, pending, toAll, rfl, rfl, current⟩ := announced
      exact .inr ⟨new, List.mem_cons_self, parcel, pending, .inl toAll, rfl,
        rfl, current⟩

theorem settle (kept : VoiceKept hub (old :: rest))
    (silent : old.pending = []) : VoiceKept hub (.done :: rest) where
  subscribed := kept.subscribed
  reading := kept.reading_rest rfl
  informed := by
    intro group device present other
    exact kept.informed_change silent (.inl rfl) present

section Registry

private theorem isConnected_subscribe (registry : Registry Unit)
    (device group other : Uuid) :
    (registry.subscribe device group).isConnected other =
      registry.isConnected other :=
  congrArg Option.isSome (registry.senderOf_subscribe device other group)

/-- Subscribing takes nobody off a channel, and puts a connected device on
it. -/
private theorem subscribed_subscribe {device group : Uuid} {target other : Uuid}
    (held : hub.Subscribed target other ∨
      (target = group ∧ other = device ∧
        hub.registry.isConnected device = true)) :
    { hub with
      registry := hub.registry.subscribe device group }.Subscribed target
        other := by
  unfold VoiceHub.Subscribed at held ⊢
  cases sender : hub.registry.senderOf device with
  | none =>
      simp only [hub.registry.subscribe_disconnected _ _ sender]
      cases held with
      | inl already => exact already
      | inr new =>
          have connected : (hub.registry.senderOf device).isSome = true :=
            new.2.2
          rw [sender] at connected
          cases connected
  | some channel =>
      simp only [Registry.subscription_subscribe other group sender target]
      by_cases touched : target = group ∧ other = device
      · rw [if_pos touched]
        rfl
      · rw [if_neg touched]
        cases held with
        | inl already => exact already
        | inr new => exact absurd ⟨new.1, new.2.1⟩ touched

theorem subscribe {claims : Claims}
    (kept : VoiceKept hub (old :: rest)) (silent : old.pending = [])
    (group : Uuid) (update : VoiceStateUpdate) :
    VoiceKept
      { hub with
        registry := hub.registry.subscribe claims.deviceId group }
      (.reading claims group update :: rest) where
  subscribed := by
    intro target device present
    have connected := present.connected
    rw [isConnected_subscribe] at connected
    exact subscribed_subscribe
      (.inl (kept.subscribed target device ⟨present.joined, connected⟩))
  reading := by
    refine List.forall_mem_cons.mpr ⟨?_, ?_⟩
    · intro subscriber held connected
      cases held
      rw [isConnected_subscribe] at connected
      exact subscribed_subscribe (.inr ⟨rfl, rfl, connected⟩)
    · intro task listed subscriber held connected
      rw [isConnected_subscribe] at connected
      exact subscribed_subscribe (.inl (kept.reading task
        (List.mem_cons_of_mem _ listed) subscriber held connected))
  informed := by
    intro target device present other
    have connected := present.connected
    rw [isConnected_subscribe] at connected
    exact kept.informed_change silent (.inl rfl) ⟨present.joined, connected⟩

private theorem connected_unregister {registry : Registry Unit}
    {device other : Uuid}
    (connected : (registry.unregister device).isConnected other = true) :
    other ≠ device ∧ registry.isConnected other = true := by
  have after : ((registry.unregister device).senderOf other).isSome = true :=
    connected
  rw [Registry.senderOf_unregister] at after
  by_cases same : other = device
  · rw [if_pos same] at after
    cases after
  · rw [if_neg same] at after
    exact ⟨same, after⟩

private theorem subscribed_unregister {device group other : Uuid}
    (apart : other ≠ device) (held : hub.Subscribed group other) :
    { hub with registry := hub.registry.unregister device }.Subscribed group
      other := by
  unfold VoiceHub.Subscribed at held ⊢
  simp only [Registry.subscription_unregister]
  rw [if_neg fun both => apart both.2]
  exact held

theorem unregister {device : Uuid}
    (kept : VoiceKept hub (.disconnecting device :: rest)) :
    VoiceKept { hub with registry := hub.registry.unregister device }
      (.dropping device :: rest) where
  subscribed := by
    intro group other present
    obtain ⟨apart, connected⟩ := connected_unregister present.connected
    exact subscribed_unregister apart
      (kept.subscribed group other ⟨present.joined, connected⟩)
  reading := by
    intro task listed subscriber held connected
    obtain ⟨apart, connected⟩ := connected_unregister connected
    exact subscribed_unregister apart
      (kept.reading_rest rfl task listed subscriber held connected)
  informed := by
    intro group member present other
    obtain ⟨_, connected⟩ := connected_unregister present.connected
    exact kept.informed_change rfl (.inl rfl) ⟨present.joined, connected⟩

end Registry

theorem send {new : VoiceTask} (kept : VoiceKept hub (old :: rest))
    (parcel : VoiceParcel)
    (left : ∀ other ∈ old.pending, other = parcel ∨ other ∈ new.pending)
    (passive : new.subscriber? = none)
    (timely : ∀ device, parcel.IsFor device →
      hub.Present parcel.news.groupId device →
      hub.Current parcel.news ∨ ∃ later ∈ rest, later.Tells hub
        parcel.news.groupId device parcel.news.device) :
    VoiceKept (hub.send parcel.target parcel.news) (new :: rest) where
  subscribed := by
    intro group device present
    unfold VoiceHub.Subscribed
    rw [VoiceHub.send_registry]
    refine kept.subscribed group device ⟨?_, ?_⟩
    · simpa using present.joined
    · simpa using present.connected
  reading := by
    unfold VoiceHub.Subscribed
    rw [VoiceHub.send_registry]
    exact kept.reading_rest passive
  informed := by
    intro group device after other
    have present : hub.Present group device :=
      ⟨by simpa using after.joined, by simpa using after.connected⟩
    rw [VoiceHub.lookup_view_send present.connected
      (kept.subscribed group device present), VoiceHub.send_voice]
    by_cases told : parcel.IsFor device ∧ parcel.news.groupId = group ∧
        other = parcel.news.device
    · obtain ⟨isFor, rfl, rfl⟩ := told
      rw [if_pos ⟨isFor, rfl, rfl⟩]
      refine (timely device isFor present).imp id ?_
      intro later
      obtain ⟨task, listed, tells⟩ := later
      exact ⟨task, List.mem_cons_of_mem _ listed,
        tells.of_same (by rw [VoiceHub.send_voice])⟩
    · rw [if_neg told]
      refine (kept.informed group device present other).imp id ?_
      intro awaited
      obtain ⟨task, listed, pending, waits, isFor, rfl, rfl, current⟩ :=
        awaited
      have still : (hub.send parcel.target parcel.news).Current
          pending.news := by
        unfold VoiceHub.Current
        rw [VoiceHub.send_voice]
        exact current
      cases List.mem_cons.mp listed with
      | inl first =>
          rw [first] at waits
          cases left pending waits with
          | inl sent =>
              rw [sent] at told isFor
              exact absurd ⟨isFor, rfl, rfl⟩ told
          | inr waits =>
              exact ⟨new, List.mem_cons_self, pending, waits, isFor, rfl, rfl,
                still⟩
      | inr listed =>
          exact ⟨task, List.mem_cons_of_mem _ listed, pending, waits, isFor,
            rfl, rfl, still⟩

section Change

variable {new : VoiceTask} {voice : Nested Uuid Uuid VoiceState}

theorem remove (kept : VoiceKept hub (old :: rest))
    (silent : old.pending = [])
    (passive : new.subscriber? = none)
    (removed : ∀ group device, (voice.get group device).isSome = true →
      (hub.voice.get group device).isSome = true)
    (announced : ∀ group other,
      Announced hub { hub with voice } new group other) :
    VoiceKept { hub with voice } (new :: rest) where
  subscribed := by
    intro group device present
    exact kept.subscribed group device
      ⟨removed group device present.joined, present.connected⟩
  reading := kept.reading_rest passive
  informed := by
    intro group device present other
    exact kept.informed_change silent (announced group other)
      ⟨removed group device present.joined, present.connected⟩

theorem leave {claims : Claims} {group : Uuid} {update : VoiceStateUpdate}
    (kept : VoiceKept hub (.reading claims group update :: rest))
    (state : VoiceState) :
    VoiceKept (hub.voiceLeave group claims.deviceId)
      (.announcing ⟨group, claims.deviceId, state, false⟩ [] :: rest) := by
  apply kept.remove rfl rfl
  · intro target device present
    rw [Nested.get_drop] at present
    by_cases touched : target = group ∧ device = claims.deviceId
    · rw [if_pos touched] at present
      cases present
    · rw [if_neg touched] at present
      exact present
  · intro target other
    unfold Announced
    simp only [Nested.get_drop]
    by_cases touched : target = group ∧ other = claims.deviceId
    · rw [if_pos touched]
      obtain ⟨rfl, rfl⟩ := touched
      exact .inr ⟨_, List.mem_cons_self, rfl, rfl, rfl, rfl⟩
    · rw [if_neg touched]
      exact .inl rfl

private theorem mem_voiceOf {device group : Uuid} {state : VoiceState}
    (present : hub.voice.get group device = some state) :
    (group, state) ∈ hub.voiceOf device := by
  unfold VoiceHub.voiceOf
  rw [List.mem_filterMap]
  refine ⟨group, ?_, by rw [present]; rfl⟩
  rw [← AList.mem_keys, ← AList.lookup_isSome]
  unfold Nested.get Nested.row at present
  cases found : AList.lookup group hub.voice with
  | none =>
      rw [found] at present
      cases present
  | some row => rfl

private theorem get_dropped (hub : VoiceHub) (device group other : Uuid) :
    (hub.voice.dropAll hub.voice.keys device).get group other =
      if other = device then none else hub.voice.get group other := by
  rw [Nested.get_dropAll]
  by_cases same : other = device
  · rw [if_pos same]
    by_cases known : group ∈ hub.voice.keys
    · rw [if_pos ⟨known, same⟩]
    · rw [if_neg fun both => known both.1]
      rw [← AList.mem_keys, ← AList.lookup_eq_none] at known
      unfold Nested.get Nested.row
      rw [known]
      rfl
  · rw [if_neg same, if_neg fun both => same both.2]

theorem drop {device : Uuid}
    (kept : VoiceKept hub (.dropping device :: rest)) :
    VoiceKept (hub.voiceDropDevice device)
      (.sending none (VoiceTask.farewells device (hub.voiceOf device)) ::
        rest) := by
  apply kept.remove rfl rfl
  · intro group other present
    rw [get_dropped] at present
    by_cases same : other = device
    · rw [if_pos same] at present
      cases present
    · rw [if_neg same] at present
      exact present
  · intro group other
    unfold Announced
    rw [get_dropped]
    by_cases same : other = device
    · subst same
      rw [if_pos rfl]
      cases present : hub.voice.get group other with
      | none => exact .inl rfl
      | some state =>
          right
          refine ⟨⟨none, ⟨group, other, state, false⟩⟩, ?_, rfl, rfl, rfl,
            rfl⟩
          apply List.mem_map_of_mem
          exact List.mem_map_of_mem
            (f := fun entry : Uuid × VoiceState =>
              (⟨entry.1, other, entry.2, false⟩ : VoiceParticipant))
            (mem_voiceOf present)
    · rw [if_neg same]
      exact .inl rfl

private theorem mem_participants {group other : Uuid} {state : VoiceState}
    (present : hub.voice.get group other = some state) :
    (other, state) ∈ hub.participants group :=
  List.mem_map.mpr ⟨⟨other, state⟩, AList.mem_lookup_iff.mp present, rfl⟩

private theorem view_newcomer {group device : Uuid} {state : VoiceState}
    (absent : hub.voice.get group device = none) :
    (hub.voiceJoin group device state).view group device = ∅ := by
  unfold VoiceHub.voiceJoin VoiceHub.view
  rw [absent]
  change (hub.log ++ [VoiceEntry.entered group device]).foldl _ _ = _
  rw [List.foldl_append]
  exact if_pos ⟨rfl, rfl⟩

private theorem view_voiceJoin {group device target other : Uuid}
    {state : VoiceState}
    (known : target = group → other = device →
      (hub.voice.get group device).isSome = true) :
    (hub.voiceJoin group device state).view target other =
      hub.view target other := by
  unfold VoiceHub.voiceJoin VoiceHub.view
  by_cases present : (hub.voice.get group device).isSome = true
  · rw [if_pos present]
  · rw [if_neg present, List.foldl_append]
    refine if_neg ?_
    intro both
    exact present (known both.1.symm both.2.symm)

section Join

variable {group device : Uuid} {state : VoiceState}

private theorem get_voiceJoin (target other : Uuid) :
    (hub.voiceJoin group device state).voice.get target other =
      if target = group ∧ other = device then some state
      else hub.voice.get target other :=
  Nested.get_put _ _ _ _ _ _

private theorem announced_join (burst : List VoiceParticipant)
    (target other : Uuid) :
    Announced hub (hub.voiceJoin group device state)
      (.announcing ⟨group, device, state, true⟩ burst) target other := by
  unfold Announced
  rw [get_voiceJoin]
  by_cases touched : target = group ∧ other = device
  · rw [if_pos touched]
    obtain ⟨rfl, rfl⟩ := touched
    exact .inr ⟨_, List.mem_cons_self, rfl, rfl, rfl, rfl⟩
  · rw [if_neg touched]
    exact .inl rfl

private theorem present_before {target other : Uuid}
    (known : target = group → other = device →
      (hub.voice.get group device).isSome = true)
    (present : (hub.voiceJoin group device state).Present target other) :
    hub.Present target other := by
  refine ⟨?_, present.connected⟩
  by_cases same : target = group ∧ other = device
  · obtain ⟨rfl, rfl⟩ := same
    exact known rfl rfl
  · have joined := present.joined
    rw [get_voiceJoin, if_neg same] at joined
    exact joined

private theorem informed_newcomer (absent : hub.voice.get group device = none)
    (other : Uuid) :
    AList.lookup other
        ((hub.voiceJoin group device state).view group device) =
          (hub.voiceJoin group device state).voice.get group other ∨
      VoiceTask.Tells (.announcing ⟨group, device, state, true⟩
        (VoiceTask.burst group device
          ((hub.voiceJoin group device state).participants group)))
        (hub.voiceJoin group device state) group device other := by
  rw [view_newcomer absent]
  by_cases self : other = device
  · subst self
    refine .inr ⟨_, List.mem_cons_self, .inl rfl, rfl, rfl, ?_⟩
    rw [VoiceHub.Current, get_voiceJoin, if_pos ⟨rfl, rfl⟩]
    rfl
  · cases found : (hub.voiceJoin group device state).voice.get group
        other with
    | none => exact .inl rfl
    | some held =>
        refine .inr ⟨⟨some device, ⟨group, other, held, true⟩⟩, ?_,
          .inr rfl, rfl, rfl, found.symm⟩
        apply List.mem_cons_of_mem
        apply List.mem_map_of_mem
        exact List.mem_map.mpr ⟨(other, held), List.mem_filter.mpr
          ⟨mem_participants found, by simpa using self⟩, rfl⟩

end Join

theorem join {claims : Claims} {group : Uuid} {update : VoiceStateUpdate}
    (kept : VoiceKept hub (.reading claims group update :: rest))
    (state : VoiceState) :
    VoiceKept (hub.voiceJoin group claims.deviceId state)
      (.announcing ⟨group, claims.deviceId, state, true⟩
        (VoiceTask.burst group claims.deviceId
          ((hub.voiceJoin group claims.deviceId state).participants group)) ::
        rest) where
  subscribed := by
    intro target device present
    by_cases same : target = group ∧ device = claims.deviceId
    · obtain ⟨rfl, rfl⟩ := same
      exact kept.reading _ List.mem_cons_self _ rfl present.connected
    · have before : hub.Present target device :=
        present_before (fun sameGroup sameDevice =>
          absurd ⟨sameGroup, sameDevice⟩ same) present
      exact kept.subscribed target device before
  reading := kept.reading_rest rfl
  informed := by
    intro target device present other
    by_cases newcomer : target = group ∧ device = claims.deviceId ∧
        hub.voice.get group claims.deviceId = none
    · obtain ⟨rfl, rfl, absent⟩ := newcomer
      refine (informed_newcomer absent other).imp id ?_
      intro tells
      exact ⟨_, List.mem_cons_self, tells⟩
    · have known : target = group → device = claims.deviceId →
          (hub.voice.get group claims.deviceId).isSome = true := by
        intro sameGroup sameDevice
        rw [Option.isSome_iff_ne_none]
        exact fun absent => newcomer ⟨sameGroup, sameDevice, absent⟩
      rw [view_voiceJoin known]
      exact kept.informed_change rfl (announced_join _ target other)
        (present_before known present)

end Change

theorem start {tasks : List VoiceTask} (call : VoiceCall)
    (kept : VoiceKept hub tasks) :
    VoiceKept hub (tasks ++ [VoiceTask.enter call]) where
  subscribed := kept.subscribed
  reading := by
    refine List.forall_mem_append.mpr ⟨kept.reading, ?_⟩
    refine List.forall_mem_singleton.mpr ?_
    cases call with
    | update claims update => exact nofun
    | disconnect device => exact nofun
  informed := by
    intro group device present other
    refine (kept.informed group device present other).imp id ?_
    intro told
    obtain ⟨task, listed, tells⟩ := told
    exact ⟨task, List.mem_append_left _ listed, tells⟩

theorem advance {task : VoiceTask} (kept : VoiceKept hub (task :: rest))
    (input : VoiceInput)
    (timely : ∀ parcel device, task.next input = some parcel →
      parcel.IsFor device → hub.Present parcel.news.groupId device →
      hub.Current parcel.news ∨ ∃ later ∈ rest, later.Tells hub
        parcel.news.groupId device parcel.news.device) :
    VoiceKept (task.advance hub input).1
      ((task.advance hub input).2 :: rest) := by
  cases task with
  | checking claims update =>
      simp only [VoiceTask.advance]
      split
      · exact kept.subscribe rfl _ update
      · exact kept.settle rfl
  | reading claims group update =>
      simp only [VoiceTask.advance]
      cases input.profile with
      | none => exact kept.settle rfl
      | some profile =>
          simp only [VoiceTask.change]
          by_cases joins : update.joined = true
          · rw [if_pos joins]
            exact kept.join _
          · rw [if_neg joins]
            exact kept.leave _
  | announcing news burst =>
      refine kept.send ⟨none, news⟩ ?_ rfl ?_
      · intro other waits
        exact List.mem_cons.mp waits
      · intro device
        exact timely _ device rfl
  | sending target left =>
      cases left with
      | nil => exact kept.settle rfl
      | cons first more =>
          simp only [VoiceTask.advance]
          cases picked : (first :: more)[input.pick]? with
          | none => exact kept
          | some news =>
              refine kept.send ⟨target, news⟩ ?_ rfl ?_
              · intro other waits
                obtain ⟨message, listed, rfl⟩ := List.mem_map.mp waits
                refine ((Slots.mem_iff_of_found picked message).mp
                  listed).imp ?_ ?_
                · intro same
                  rw [same]
                · exact fun stays => List.mem_map_of_mem stays
              · intro device
                refine timely _ device ?_
                simp only [VoiceTask.next, picked, Option.map_some]
  | disconnecting device => exact kept.unregister
  | dropping device => exact kept.drop
  | done => exact kept

end VoiceKept

namespace VoicePool

theorem kept_empty (registry : Registry Unit) :
    VoiceKept ⟨registry, ∅, []⟩ [] where
  subscribed := by
    intro group device present
    cases present.joined
  reading := nofun
  informed := by
    intro group device present
    cases present.joined

/-- In a run in which no stale message has the last word, every device of a
channel knows its roster whenever no call is in flight. -/
theorem agrees_of_timely (registry : Registry Unit)
    (events : List VoiceEvent)
    (timely : EventRun.Each voiceMachine.step Timely ⟨⟨registry, ∅, []⟩, []⟩
      events) :
    EventRun.Always voiceMachine.step Agrees ⟨⟨registry, ∅, []⟩, []⟩
      events := by
  have always : EventRun.Always voiceMachine.step
      (fun pool => VoiceKept pool.shared pool.tasks)
      ⟨⟨registry, ∅, []⟩, []⟩ events := by
    refine Tasks.Machine.always_of_advance VoiceKept VoiceKept.of_mem
      VoiceKept.start ?_ (kept_empty registry) timely
    intro pool index task input found timely kept
    exact kept.advance input
      fun parcel device => timely task parcel device found
  refine always.imp ?_
  intro pool kept quiet group device present other
  cases kept.informed group device present other with
  | inl agrees => exact agrees
  | inr told =>
      obtain ⟨task, listed, parcel, pending, _⟩ := told
      rw [quiet task listed] at pending
      cases pending

/-! Device 8 is in the channel when device 7 joins it.  The leave of device 8
falls between the join of device 7 and the roster that is sent to it. -/

def voiceRegistry : Registry Unit :=
  (({} : Registry Unit).register 7 [1] ()).register 8 [1] ()

def voiceUpdate (joined : Bool) : VoiceStateUpdate where
  groupId := some (.uuid 1)
  joined := joined
  muted := false
  cameraOn := false
  screenOn := false

def turnsOf (index count : ℕ) : List VoiceEvent :=
  List.replicate count (.turn index {})

/-- Device 8 joins, device 7 joins up to its burst, device 8 leaves, and the
burst of device 7 is sent. -/
def leaveInJoin : List VoiceEvent :=
  [.start (.update ⟨80, 8⟩ (voiceUpdate true))] ++ turnsOf 0 4 ++
    [.start (.update ⟨70, 7⟩ (voiceUpdate true))] ++ turnsOf 1 3 ++
    [.start (.update ⟨80, 8⟩ (voiceUpdate false))] ++ turnsOf 2 4 ++
    turnsOf 1 2

def voiceStart : VoicePool := ⟨⟨voiceRegistry, ∅, []⟩, []⟩

theorem leaveInJoin_ghost :
    ¬ EventRun.Always voiceMachine.step Agrees voiceStart leaveInJoin := by
  intro always
  have quiet : Quiet (EventRun.run voiceMachine.step voiceStart
      leaveInJoin) := by
    decide +kernel
  have agrees := always.last quiet 1 7
    ⟨by decide +kernel, by decide +kernel⟩ 8
  revert agrees
  decide +kernel

/-- Every message is current when it is sent. -/
def Prompt (pool : VoicePool) : VoiceEvent → Prop
  | .start _ => True
  | .turn index input =>
      ∀ parcel ∈ (pool.tasks[index]?).bind (·.next input),
        pool.shared.Current parcel.news

instance (pool : VoicePool) (event : VoiceEvent) :
    Decidable (Prompt pool event) :=
  match event with
  | .start _ => isTrue trivial
  | .turn index input => inferInstanceAs (Decidable
      (∀ parcel ∈ (pool.tasks[index]?).bind (·.next input),
        pool.shared.Current parcel.news))

theorem Prompt.timely {pool : VoicePool} {event : VoiceEvent}
    (prompt : Prompt pool event) : Timely pool event := by
  cases event with
  | start call => trivial
  | turn index input =>
      intro task parcel device found sends _ _
      refine .inl (prompt parcel ?_)
      rw [found]
      exact sends

def leaveAfterJoin : List VoiceEvent :=
  [.start (.update ⟨80, 8⟩ (voiceUpdate true))] ++ turnsOf 0 4 ++
    [.start (.update ⟨70, 7⟩ (voiceUpdate true))] ++ turnsOf 1 5 ++
    [.start (.update ⟨80, 8⟩ (voiceUpdate false))] ++ turnsOf 2 4

theorem leaveAfterJoin_agrees :
    EventRun.Each voiceMachine.step Timely voiceStart leaveAfterJoin ∧
      EventRun.Always voiceMachine.step Agrees voiceStart leaveAfterJoin := by
  have prompt : EventRun.Each voiceMachine.step Prompt voiceStart
      leaveAfterJoin := by
    decide +kernel
  have timely : EventRun.Each voiceMachine.step Timely voiceStart
      leaveAfterJoin :=
    prompt.imp fun _ _ => Prompt.timely
  exact ⟨timely, agrees_of_timely voiceRegistry leaveAfterJoin timely⟩

end VoicePool

end Accord
