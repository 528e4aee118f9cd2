import Accord.Library.Slots
import Accord.Server.Messaging.Hub

/-! The streams of a device over time.  A stream gets a channel of its own
when it registers; the tables know only its device. -/

namespace Accord

/-- `opening` is an RPC between `register` and the spawn of the reader task,
`reading` a reader task with its guard, `ended` a stream that is gone. -/
inductive Phase where
  | opening
  | reading
  | ended
  deriving DecidableEq

structure Connection where
  device : Uuid
  groups : List Uuid
  phase : Phase
  deriving DecidableEq

/-- A stream's channel is its place in the list of streams. -/
structure Streams where
  registry : Registry ℕ := {}
  connections : List Connection := []

inductive StreamEvent where
  | register (device : Uuid) (groups : List Uuid)
  | spawn (channel : ℕ)
  | cancel (channel : ℕ)
  | close (channel : ℕ)
  | subscribe (device group : Uuid)

namespace Streams

def enter (streams : Streams) (channel : ℕ) (connection : Connection)
    (phase : Phase) : Streams :=
  { streams with
    connections := streams.connections.set channel
      { connection with phase := phase } }

/-- The stream on a channel, if it is in the given phase. -/
def inPhase (streams : Streams) (channel : ℕ) (phase : Phase) :
    Option Connection :=
  streams.connections[channel]?.filter (·.phase == phase)

def register (streams : Streams) (device : Uuid) (groups : List Uuid) :
    Streams where
  registry := streams.registry.register device groups
    streams.connections.length
  connections := streams.connections ++ [⟨device, groups, .opening⟩]

def spawn (streams : Streams) (channel : ℕ) : Streams :=
  match streams.inPhase channel .opening with
  | some connection => streams.enter channel connection .reading
  | none => streams

/-- Dropping the RPC before its reader task exists drops no guard. -/
def cancel (streams : Streams) (channel : ℕ) : Streams :=
  match streams.inPhase channel .opening with
  | some connection => streams.enter channel connection .ended
  | none => streams

/-- The end of a reader task drops its guard, which unregisters the device. -/
def close (streams : Streams) (channel : ℕ) : Streams :=
  match streams.inPhase channel .reading with
  | some connection =>
      { registry := streams.registry.unregister connection.device
        connections :=
          (streams.enter channel connection .ended).connections }
  | none => streams

def subscribe (streams : Streams) (device group : Uuid) : Streams :=
  { streams with registry := streams.registry.subscribe device group }

def step (streams : Streams) : StreamEvent → Streams
  | .register device groups => streams.register device groups
  | .spawn channel => streams.spawn channel
  | .cancel channel => streams.cancel channel
  | .close channel => streams.close channel
  | .subscribe device group => streams.subscribe device group

def Newest (streams : Streams) (channel : ℕ) (connection : Connection) :
    Prop :=
  streams.connections[channel]? = some connection ∧
    ∀ (later : ℕ) (other : Connection), channel < later →
      streams.connections[later]? = some other →
      other.device ≠ connection.device

def NoneOpen (streams : Streams) (device : Uuid) : Prop :=
  ∀ (channel : ℕ) (connection : Connection),
    streams.connections[channel]? = some connection →
    connection.device = device → connection.phase = .ended

/-- While the newest stream of a device is open the device is connected and
whatever is meant for it, or for a group it opened the stream with or was
subscribed to since, is offered to that stream.  A device without an open
stream is not connected. -/
structure ReconnectSafe (streams : Streams) : Prop where
  connected : ∀ channel connection, streams.Newest channel connection →
    connection.phase ≠ .ended →
    streams.registry.isConnected connection.device = true
  offered : ∀ channel connection, streams.Newest channel connection →
    connection.phase ≠ .ended → ∀ event : BusEvent,
    event.targets connection.device
      (connection.groups ++ streams.registry.groupsOf connection.device) →
    (channel, event.message) ∈ streams.registry.route event
  disconnected : ∀ device, streams.NoneOpen device →
    streams.registry.isConnected device = false

structure Routed (streams : Streams) : Prop where
  direct : ∀ channel connection, streams.Newest channel connection →
    connection.phase ≠ .ended →
    streams.registry.senderOf connection.device = some channel
  opened : ∀ channel connection, streams.Newest channel connection →
    connection.phase ≠ .ended → ∀ group ∈ connection.groups,
    streams.registry.subscription group connection.device = some channel
  listed : ∀ channel connection, streams.Newest channel connection →
    connection.phase ≠ .ended →
    ∀ group ∈ streams.registry.groupsOf connection.device,
    streams.registry.subscription group connection.device = some channel
  gone : ∀ device, streams.NoneOpen device →
    streams.registry.senderOf device = none

private theorem Routed.reconnectSafe {streams : Streams}
    (routed : streams.Routed) :
    streams.ReconnectSafe where
  connected := by
    intro channel connection newest alive
    have direct := routed.direct channel connection newest alive
    unfold Registry.senderOf at direct
    simp [Registry.isConnected, direct]
  offered := by
    intro channel connection newest alive event meant
    apply Registry.route_offers
      (routed.direct channel connection newest alive) ?_ meant
    intro group member
    cases List.mem_append.mp member with
    | inl given => exact routed.opened channel connection newest alive _ given
    | inr added => exact routed.listed channel connection newest alive _ added
  disconnected := by
    intro device none
    have gone := routed.gone device none
    unfold Registry.senderOf at gone
    simp [Registry.isConnected, gone]

/-- A guard is dropped only when no newer stream of its device is open; an
opening is cancelled only when another stream of the device is open or the
device is not registered. -/
def Orderly (streams : Streams) : StreamEvent → Prop
  | .close channel => ∀ connection,
      streams.inPhase channel .reading = some connection →
      ∀ newest other, streams.Newest newest other →
        other.device = connection.device → newest ≠ channel →
        other.phase = .ended
  | .cancel channel => ∀ connection,
      streams.inPhase channel .opening = some connection →
      (∃ another other, another ≠ channel ∧
        streams.connections[another]? = some other ∧
        other.device = connection.device ∧ other.phase ≠ .ended) ∨
      streams.registry.isConnected connection.device = false
  | _ => True

variable {streams : Streams}

private theorem inPhase_eq {channel : ℕ} {phase : Phase}
    {connection : Connection}
    (found : streams.inPhase channel phase = some connection) :
    streams.connections[channel]? = some connection ∧
      connection.phase = phase := by
  unfold inPhase at found
  rw [Option.filter_eq_some_iff] at found
  exact ⟨found.1, by simpa using found.2⟩

private theorem isConnected_eq_false {registry : Registry ℕ} {device : Uuid} :
    registry.isConnected device = false ↔ registry.senderOf device = none := by
  simp [Registry.isConnected, Registry.senderOf]

section Enter

variable {channel : ℕ} {connection : Connection} {phase : Phase}
  (found : streams.connections[channel]? = some connection)

include found in
theorem getElem?_enter (other : ℕ) :
    (streams.enter channel connection phase).connections[other]? =
      if other = channel then some { connection with phase := phase }
      else streams.connections[other]? := by
  exact Slots.getElem?_set_of_found found _ other

include found in
private theorem newest_enter {other : ℕ} {candidate : Connection}
    (newest : (streams.enter channel connection phase).Newest other
      candidate) :
    (other = channel ∧ candidate = { connection with phase := phase } ∧
        streams.Newest channel connection) ∨
      (other ≠ channel ∧ streams.Newest other candidate) := by
  obtain ⟨present, last⟩ := newest
  have earlier : ∀ later unchanged, other < later →
      streams.connections[later]? = some unchanged →
      unchanged.device ≠ candidate.device := by
    intro later unchanged after stored
    by_cases same : later = channel
    · subst same
      rw [found] at stored
      cases stored
      have changed := last later { connection with phase := phase } after
      rw [getElem?_enter found, if_pos rfl] at changed
      exact changed rfl
    · have kept := last later unchanged after
      rw [getElem?_enter found, if_neg same] at kept
      exact kept stored
  rw [getElem?_enter found] at present
  by_cases same : other = channel
  · rw [if_pos same] at present
    cases present
    subst same
    exact Or.inl ⟨rfl, rfl, found, earlier⟩
  · rw [if_neg same] at present
    exact Or.inr ⟨same, present, earlier⟩

include found in
private theorem newest_of_enter {other : ℕ} {candidate : Connection}
    (alive : connection.phase ≠ .ended)
    (newest : (streams.enter channel connection phase).Newest other
      candidate) :
    ∃ before, streams.Newest other before ∧
      (candidate.phase ≠ .ended → before.phase ≠ .ended) ∧
      before.device = candidate.device ∧
      before.groups = candidate.groups := by
  rcases newest_enter found newest with ⟨rfl, rfl, before⟩ | ⟨_, before⟩
  · exact ⟨connection, before, fun _ => alive, rfl, rfl⟩
  · exact ⟨candidate, before, id, rfl, rfl⟩

include found in
theorem Newest.enter {other : ℕ} {candidate : Connection}
    (newest : streams.Newest other candidate) (different : other ≠ channel) :
    (streams.enter channel connection phase).Newest other candidate := by
  constructor
  · rw [getElem?_enter found, if_neg different]
    exact newest.1
  · intro later unchanged after stored
    rw [getElem?_enter found] at stored
    by_cases same : later = channel
    · rw [if_pos same] at stored
      cases stored
      exact newest.2 channel connection (same ▸ after) found
    · rw [if_neg same] at stored
      exact newest.2 later unchanged after stored

include found in
private theorem noneOpen_enter {device : Uuid}
    (none : (streams.enter channel connection phase).NoneOpen device) :
    (connection.device = device → phase = .ended) ∧
      ∀ other candidate, other ≠ channel →
        streams.connections[other]? = some candidate →
        candidate.device = device → candidate.phase = .ended := by
  constructor
  · intro same
    apply none channel { connection with phase := phase } ?_ same
    rw [getElem?_enter found, if_pos rfl]
  · intro other candidate different stored same
    apply none other candidate ?_ same
    rw [getElem?_enter found, if_neg different]
    exact stored

include found in
private theorem noneOpen_of_enter {device : Uuid}
    (none : (streams.enter channel connection phase).NoneOpen device)
    (different : connection.device ≠ device) : streams.NoneOpen device := by
  intro other candidate stored same
  apply (noneOpen_enter found none).2 other candidate ?_ stored same
  intro equality
  subst equality
  rw [found] at stored
  cases stored
  exact different same

end Enter

/-! Each event, on tables that route to the newest streams. -/

section Steps

variable (routed : streams.Routed)

/-- The newest streams are the one that opens and, of other devices, those
that were. -/
private theorem newest_register {device : Uuid} {groups : List Uuid}
    {channel : ℕ}
    {connection : Connection}
    (newest : (streams.register device groups).Newest channel connection) :
    (channel = streams.connections.length ∧
        connection = ⟨device, groups, .opening⟩) ∨
      (connection.device ≠ device ∧ streams.Newest channel connection) := by
  obtain ⟨present, last⟩ := newest
  cases Slots.append_cases present with
  | inl before =>
      right
      refine ⟨?_, before, ?_⟩
      · have newer := last streams.connections.length
          ⟨device, groups, .opening⟩
          (List.getElem?_eq_some_iff.mp before).1
          (by simp [Streams.register])
        exact fun same => newer same.symm
      · intro later other after stored
        exact last later other after
          (Slots.getElem?_append_of_found stored _)
  | inr added => exact .inl added

include routed in
theorem Routed.register (device : Uuid) (groups : List Uuid) :
    (streams.register device groups).Routed := by
  constructor
  · intro channel connection newest alive
    change (streams.registry.register _ _ _).senderOf _ = _
    rw [Registry.senderOf_register]
    rcases newest_register newest with
      ⟨rfl, rfl⟩ | ⟨different, older⟩
    · rw [if_pos rfl]
    · rw [if_neg different]
      exact routed.direct channel connection older alive
  · intro channel connection newest alive group member
    change (streams.registry.register _ _ _).subscription _ _ = _
    rw [Registry.subscription_register]
    rcases newest_register newest with
      ⟨rfl, rfl⟩ | ⟨different, older⟩
    · rw [if_pos ⟨member, rfl⟩]
    · rw [if_neg (by simp [different])]
      exact routed.opened channel connection older alive group member
  · intro channel connection newest alive group member
    change group ∈ (streams.registry.register _ _ _).groupsOf _ at member
    change (streams.registry.register _ _ _).subscription _ _ = _
    rw [Registry.groupsOf_register] at member
    rw [Registry.subscription_register]
    rcases newest_register newest with
      ⟨rfl, rfl⟩ | ⟨different, older⟩
    · rw [if_pos rfl] at member
      rw [if_pos ⟨member, rfl⟩]
    · rw [if_neg different] at member
      rw [if_neg (by simp [different])]
      exact routed.listed channel connection older alive group member
  · intro other none
    have different : other ≠ device := by
      intro same
      have ended := none streams.connections.length
        ⟨device, groups, .opening⟩ (by simp [Streams.register]) same.symm
      cases ended
    change (streams.registry.register _ _ _).senderOf _ = _
    rw [Registry.senderOf_register, if_neg different]
    apply routed.gone
    intro channel connection stored same
    exact none channel connection (Slots.getElem?_append_of_found stored _)
      same

include routed in
theorem Routed.subscribe (device group : Uuid) :
    (streams.subscribe device group).Routed := by
  cases connected : streams.registry.senderOf device with
  | none =>
      have same : streams.subscribe device group = streams := by
        unfold Streams.subscribe
        rw [Registry.subscribe_disconnected _ _ _ connected]
      rw [same]
      exact routed
  | some sender =>
      -- the subscribed channel is the newest stream's, since it is the
      -- device's current one
      have current : ∀ channel connection,
          streams.Newest channel connection → connection.phase ≠ .ended →
          connection.device = device → sender = channel := by
        intro channel connection newest alive same
        have direct := routed.direct channel connection newest alive
        rw [same, connected] at direct
        exact Option.some.inj direct
      have kept : ∀ channel connection,
          streams.Newest channel connection → connection.phase ≠ .ended →
          ∀ target, (target = group ∧ connection.device = device) ∨
            streams.registry.subscription target connection.device =
              some channel →
          (streams.registry.subscribe device group).subscription target
            connection.device = some channel := by
        intro channel connection newest alive target before
        rw [Registry.subscription_subscribe _ _ connected]
        by_cases touched : target = group ∧ connection.device = device
        · rw [if_pos touched,
            current channel connection newest alive touched.2]
        · rw [if_neg touched]
          exact before.resolve_left touched
      constructor
      · intro channel connection newest alive
        change (streams.registry.subscribe _ _).senderOf _ = _
        rw [Registry.senderOf_subscribe]
        exact routed.direct channel connection newest alive
      · intro channel connection newest alive target member
        apply kept channel connection newest alive
        exact Or.inr
          (routed.opened channel connection newest alive target member)
      · intro channel connection newest alive target member
        apply kept channel connection newest alive
        have either := (Registry.mem_groupsOf_subscribe _ _ connected
          target).mp member
        exact either.imp_right
          (routed.listed channel connection newest alive target)
      · intro other none
        change (streams.registry.subscribe _ _).senderOf _ = _
        rw [Registry.senderOf_subscribe]
        exact routed.gone other none

include routed in
theorem Routed.spawn (channel : ℕ) :
    (streams.spawn channel).Routed := by
  unfold Streams.spawn
  cases held : streams.inPhase channel .opening with
  | none => exact routed
  | some connection =>
      obtain ⟨found, opening⟩ := inPhase_eq held
      have alive : connection.phase ≠ .ended := by simp [opening]
      constructor
      · intro other candidate newest stillOpen
        obtain ⟨before, older, live, device, _⟩ :=
          newest_of_enter found alive newest
        rw [← device]
        exact routed.direct other before older (live stillOpen)
      · intro other candidate newest stillOpen
        obtain ⟨before, older, live, device, groups⟩ :=
          newest_of_enter found alive newest
        rw [← device, ← groups]
        exact routed.opened other before older (live stillOpen)
      · intro other candidate newest stillOpen
        obtain ⟨before, older, live, device, _⟩ :=
          newest_of_enter found alive newest
        rw [← device]
        exact routed.listed other before older (live stillOpen)
      · intro device none
        apply routed.gone device
        apply noneOpen_of_enter found none
        intro same
        cases (noneOpen_enter found none).1 same

include routed in
theorem Routed.cancel (channel : ℕ)
    (orderly : streams.Orderly (.cancel channel)) :
    (streams.cancel channel).Routed := by
  unfold Streams.cancel
  cases held : streams.inPhase channel .opening with
  | none => exact routed
  | some connection =>
      obtain ⟨found, _⟩ := inPhase_eq held
      have before : ∀ other candidate,
          (streams.enter channel connection .ended).Newest other candidate →
          candidate.phase ≠ .ended → streams.Newest other candidate := by
        intro other candidate newest alive
        rcases newest_enter found newest with
          ⟨_, rfl, _⟩ | ⟨_, before⟩
        · exact absurd rfl alive
        · exact before
      constructor
      · intro other candidate newest alive
        exact routed.direct _ _ (before _ _ newest alive) alive
      · intro other candidate newest alive
        exact routed.opened _ _ (before _ _ newest alive) alive
      · intro other candidate newest alive
        exact routed.listed _ _ (before _ _ newest alive) alive
      · intro device none
        by_cases same : connection.device = device
        · subst same
          cases orderly connection held with
          | inl another =>
              obtain ⟨other, candidate, different, stored, own, alive⟩ :=
                another
              exact absurd ((noneOpen_enter found none).2 other candidate
                different stored own) alive
          | inr unregistered => exact isConnected_eq_false.mp unregistered
        · exact routed.gone device (noneOpen_of_enter found none same)

include routed in
theorem Routed.close (channel : ℕ)
    (orderly : streams.Orderly (.close channel)) :
    (streams.close channel).Routed := by
  unfold Streams.close
  cases held : streams.inPhase channel .reading with
  | none => exact routed
  | some connection =>
      obtain ⟨found, _⟩ := inPhase_eq held
      -- a newest stream that is still open belongs to another device
      have before : ∀ other candidate,
          (streams.enter channel connection .ended).Newest other candidate →
          candidate.phase ≠ .ended → streams.Newest other candidate ∧
            candidate.device ≠ connection.device := by
        intro other candidate newest alive
        rcases newest_enter found newest with
          ⟨_, rfl, _⟩ | ⟨different, before⟩
        · exact absurd rfl alive
        · refine ⟨before, fun same => alive ?_⟩
          exact orderly connection held other candidate before same different
      constructor
      · intro other candidate newest alive
        obtain ⟨older, different⟩ := before other candidate newest alive
        change (streams.registry.unregister _).senderOf _ = _
        rw [Registry.senderOf_unregister, if_neg different]
        exact routed.direct other candidate older alive
      · intro other candidate newest alive group member
        obtain ⟨older, different⟩ := before other candidate newest alive
        change (streams.registry.unregister _).subscription _ _ = _
        rw [Registry.subscription_unregister, if_neg (by simp [different])]
        exact routed.opened other candidate older alive group member
      · intro other candidate newest alive group member
        obtain ⟨older, different⟩ := before other candidate newest alive
        change group ∈ (streams.registry.unregister _).groupsOf _ at member
        change (streams.registry.unregister _).subscription _ _ = _
        rw [Registry.groupsOf_unregister, if_neg different] at member
        rw [Registry.subscription_unregister, if_neg (by simp [different])]
        exact routed.listed other candidate older alive group member
      · intro device none
        change (streams.registry.unregister _).senderOf _ = _
        rw [Registry.senderOf_unregister]
        by_cases same : device = connection.device
        · rw [if_pos same]
        · rw [if_neg same]
          exact routed.gone device
            (noneOpen_of_enter found none (Ne.symm same))

end Steps

theorem Routed.step (streams : Streams) (event : StreamEvent)
    (routed : streams.Routed) (orderly : streams.Orderly event) :
    (streams.step event).Routed := by
  cases event with
  | register device groups => exact routed.register device groups
  | spawn channel => exact routed.spawn channel
  | cancel channel => exact routed.cancel channel orderly
  | close channel => exact routed.close channel orderly
  | subscribe device group => exact routed.subscribe device group

private theorem not_reconnectSafe_of_disorder (streams : Streams)
    (event : StreamEvent) (disorder : ¬ streams.Orderly event) :
    ¬ (streams.step event).ReconnectSafe := by
  intro safe
  apply disorder
  cases event with
  | close channel =>
      intro connection held newest other isNewest same different
      obtain ⟨found, _⟩ := inPhase_eq held
      by_contra alive
      have connected := safe.connected newest other
      simp only [step, Streams.close, held] at connected
      have still := connected (isNewest.enter found different) alive
      unfold Registry.isConnected at still
      change ((streams.registry.unregister _).senderOf _).isSome = _ at still
      rw [Registry.senderOf_unregister, if_pos same] at still
      cases still
  | cancel channel =>
      intro connection held
      obtain ⟨found, _⟩ := inPhase_eq held
      by_cases another : ∃ another other, another ≠ channel ∧
          streams.connections[another]? = some other ∧
          other.device = connection.device ∧ other.phase ≠ .ended
      · exact Or.inl another
      · right
        have disconnected := safe.disconnected connection.device
        simp only [step, Streams.cancel, held] at disconnected
        apply disconnected
        intro other candidate stored same
        rw [getElem?_enter found] at stored
        by_cases equal : other = channel
        · rw [if_pos equal] at stored
          cases stored
          rfl
        · rw [if_neg equal] at stored
          by_contra alive
          exact another ⟨other, candidate, equal, stored, same, alive⟩
  | register => trivial
  | spawn => trivial
  | subscribe => trivial

private theorem routed_empty : ({} : Streams).Routed where
  direct := by
    intro channel connection newest
    simp [Newest] at newest
  opened := by
    intro channel connection newest
    simp [Newest] at newest
  listed := by
    intro channel connection newest
    simp [Newest] at newest
  gone := by
    intro device _
    rfl

/-- Reconnecting is safe throughout exactly the orderly runs. -/
theorem reconnectSafe_iff_orderly (events : List StreamEvent) :
    EventRun.Always step ReconnectSafe {} events ↔
      EventRun.Each step Orderly {} events :=
  EventRun.always_iff_each_of (fun _ routed => routed.reconnectSafe)
    Routed.step (fun streams event _ => not_reconnectSafe_of_disorder
      streams event) routed_empty events

/-- A device reconnects before the reader task of its old stream ends. -/
def overlappingReconnect : List StreamEvent := [
  .register 7 [1], .spawn 0, .register 7 [1], .spawn 1, .close 0]

/-- The client gives up while its first stream is being opened. -/
def cancelledOpening : List StreamEvent := [.register 7 [1], .cancel 0]

theorem overlappingReconnect_unregisters :
    ¬ EventRun.Always step ReconnectSafe {} overlappingReconnect ∧
      ¬ EventRun.Always step ReconnectSafe {} cancelledOpening := by
  constructor
  · intro always
    have connected := always.last.connected 1 ⟨7, [1], .reading⟩ ?_ (by decide)
    · exact absurd connected (by decide)
    · refine ⟨by decide, ?_⟩
      intro later other after stored
      have bound := (List.getElem?_eq_some_iff.mp stored).1
      have length : (EventRun.run step {}
          overlappingReconnect).connections.length = 2 := by decide
      omega
  · intro always
    have disconnected := always.last.disconnected 7 ?_
    · exact absurd disconnected (by decide)
    · intro channel connection stored _
      have same : (EventRun.run step {} cancelledOpening).connections =
          [⟨7, [1], .ended⟩] := by decide
      rw [same] at stored
      have member := List.mem_of_getElem? stored
      rw [List.mem_singleton] at member
      rw [member]

end Streams

end Accord
