import Accord.Client.Sessions

/-! The voice commands and the changes of the active server, await by await.
Each command looks up the active server when it starts and sends what it has
to say there, whichever call the engine runs. -/

namespace Accord

namespace Voice

structure StateUpdate where
  groupId : String
  joined : Bool
  muted : Bool := false
  cameraOn : Bool := false
  screenOn : Bool := false
  deriving DecidableEq

structure ActiveCall where
  serverId : String
  groupId : String
  myDevice : String
  deriving DecidableEq

/-- An update handed to the stream of a session, the call it is about, and why
the stream did not take it. -/
structure Message where
  session : String
  update : StateUpdate
  about : Option ActiveCall
  error : Option String
  deriving DecidableEq

/-- `call` is the one the engine runs.  The code keeps no record of the rest:
the calls that the engine has started, newest first, the updates, and the
calls that ended, or that a command was to end, without their host's stream
taking a leave. -/
structure Client where
  sessions : Sessions := {}
  call : Option ActiveCall := none
  started : List ActiveCall := []
  sent : List Message := []
  unheard : List ActiveCall := []

inductive Command where
  | joinVoice (groupId deviceId : String)
  | leaveVoice (groupId : String)
  | setVoiceState (groupId : String) (muted cameraOn screenOn : Bool)
  | connect (serverId : String) (channel : GrpcChannel)
  | setActiveServer (serverId : String)
  | factoryReset

/-- What is still to do of a command.  Part of the record only are the number
of the call that a `join_voice` has started, the call that a leave is about,
and the one that was stopped for it. -/
inductive Task where
  | joining (groupId deviceId : String)
  | clearing (serverId groupId deviceId : String)
  | starting (call : ActiveCall)
  | announcing (call : ActiveCall) (number : ℕ)
  | retracting (error : String) (number : ℕ)
  | leaving (groupId : String)
  | stopping (serverId groupId : String)
  | hangingUp (serverId groupId : String) (about ended : Option ActiveCall)
  | setting (update : StateUpdate)
  | flagging (serverId : String) (update : StateUpdate)
  | connecting (serverId : String) (channel : GrpcChannel)
  | activating (serverId : String)
  | resetting
  | returned (error : Option String)

/-- What the audio devices and the stream of a session do. -/
structure Input where
  deviceError : Option String := none
  outbound : Bool := true
  accepted : Bool := true

def Input.sendError (input : Input) : Option String :=
  if input.outbound then
    if input.accepted then none else some "stream closed"
  else
    some "message stream is not open"

namespace Client

variable (client : Client)

def hosting (groupId : String) : Option ActiveCall :=
  client.started.find? (·.groupId == groupId)

def running (groupId : String) : Option ActiveCall :=
  client.call.filter (·.groupId == groupId)

/-- `VoiceEngine::leave`.  `silent` tells which calls the command will send no
leave for. -/
def stop (silent : ActiveCall → Bool) : Client :=
  { client with
    call := none
    unheard := (client.call.filter silent).toList ++ client.unheard }

/-- The end of `VoiceEngine::join`. -/
def begin (call : ActiveCall) : Client :=
  { client with
    call := some call
    started := call :: client.started
    unheard := client.call.toList ++ client.unheard }

def sendState (serverId : String) (update : StateUpdate)
    (about : Option ActiveCall) (input : Input) : Client :=
  { client with
    sent := client.sent ++ [⟨serverId, update, about, input.sendError⟩] }

/-- The record of a command that ends without its leave. -/
def miss (calls : Option ActiveCall) : Client :=
  { client with unheard := calls.toList ++ client.unheard }

end Client

namespace Task

def enter : Command → Task
  | .joinVoice groupId deviceId => joining groupId deviceId
  | .leaveVoice groupId => leaving groupId
  | .setVoiceState groupId muted cameraOn screenOn =>
      setting ⟨groupId, true, muted, cameraOn, screenOn⟩
  | .connect serverId channel => connecting serverId channel
  | .setActiveServer serverId => activating serverId
  | .factoryReset => resetting

def notConnected : Task := returned (some "not connected to a server")

/-- `active_server_id`, and what to do there. -/
def onActive (client : Client) (next : String → Task) : Task :=
  match client.sessions.active with
  | some serverId => next serverId
  | none => notConnected

/-- The engine stops the call it runs before it starts another one. -/
def clear (client : Client) (call : ActiveCall) : Client × Task :=
  if call.myDevice.isEmpty then
    (client, returned
      (some "this session has no device id - reconnect and try again"))
  else
    (client.stop fun _ => true, starting call)

def start (client : Client) (call : ActiveCall) (input : Input) :
    Client × Task :=
  match input.deviceError with
  | some error => (client, returned (some error))
  | none => (client.begin call, announcing call (client.started.length + 1))

def announce (client : Client) (call : ActiveCall) (number : ℕ)
    (input : Input) : Client × Task :=
  (client.sendState call.serverId ⟨call.groupId, true, false, false, false⟩
      (some call) input,
    match input.sendError with
    | some error => retracting error number
    | none => returned none)

/-- No leave is due for the call of the command itself, whose join was not
taken. -/
def retract (client : Client) (error : String) (number : ℕ) :
    Client × Task :=
  (client.stop fun _ => client.started.length != number,
    returned (some error))

def leave (client : Client) (groupId : String) : Client × Task :=
  match client.sessions.active with
  | some serverId => (client, stopping serverId groupId)
  | none => (client.miss (client.running groupId), notConnected)

def hangUp (client : Client) (serverId groupId : String)
    (about ended : Option ActiveCall) (input : Input) : Client × Task :=
  ((client.sendState serverId ⟨groupId, false, false, false, false⟩ about
      input).miss (ended.filter fun call =>
        call.serverId != serverId || input.sendError.isSome),
    returned input.sendError)

def advance (client : Client) (task : Task) (input : Input) :
    Client × Task :=
  match task with
  | joining groupId deviceId =>
      (client, onActive client (clearing · groupId deviceId))
  | clearing serverId groupId deviceId =>
      clear client ⟨serverId, groupId, deviceId⟩
  | starting call => start client call input
  | announcing call number => announce client call number input
  | retracting error number => retract client error number
  | leaving groupId => leave client groupId
  | stopping serverId groupId =>
      (client.stop (·.groupId != groupId),
        hangingUp serverId groupId (client.hosting groupId)
          (client.running groupId))
  | hangingUp serverId groupId about ended =>
      hangUp client serverId groupId about ended input
  | setting update => (client, onActive client (flagging · update))
  | flagging serverId update =>
      (client.sendState serverId update (client.hosting update.groupId) input,
        returned input.sendError)
  | connecting serverId channel =>
      ({ client with sessions := client.sessions.connect serverId channel },
        returned none)
  | activating serverId =>
      ({ client with sessions := client.sessions.setActive serverId },
        returned (if serverId ∈ client.sessions.map then none
          else some "not connected to that server"))
  | resetting => ({ client with sessions := {} }, returned none)
  | returned error => (client, returned error)

end Task

def machine : Tasks.Machine Client Command Task Input where
  enter := Task.enter
  advance := Task.advance

abbrev Pool := Tasks.Pool Client Task

abbrev Event := Tasks.Event Command Input

/-- A message about a call is for the session on which the call was joined. -/
def Message.Pinned (message : Message) : Prop :=
  ∀ call ∈ message.about, message.session = call.serverId

def Client.Pinned (client : Client) : Prop :=
  ∀ message ∈ client.sent, message.Pinned

/-- Every call that was left has told its host. -/
def Client.Told (client : Client) : Prop := client.unheard = []

/-- Whether the active server, if any, is the host of the call of a group. -/
def Client.OnHost (client : Client) (groupId : String) : Prop :=
  ∀ call ∈ client.hosting groupId, ∀ serverId ∈ client.sessions.active,
    serverId = call.serverId

/-- The group for whose call a task is about to look up the active server. -/
def Task.lookup : Task → Option String
  | leaving groupId => some groupId
  | setting update => some update.groupId
  | _ => none

/-- The group and the server of a command between its lookup and its use of
it. -/
def Task.aim : Task → Option (String × String)
  | stopping serverId groupId => some (groupId, serverId)
  | flagging serverId update => some (update.groupId, serverId)
  | _ => none

/-- The call that a task will have the engine start. -/
def Task.starts (input : Input) : Task → Option ActiveCall
  | starting call => if input.deviceError.isSome then none else some call
  | _ => none

/-- Where `leave_voice` and `set_voice_state` look up the active server, it is
the host of the call, and where the engine starts a call none of them has
looked up another server for its group. -/
structure Task.Steered (pool : Pool) (input : Input) (task : Task) :
    Prop where
  host : ∀ groupId ∈ task.lookup, pool.shared.OnHost groupId
  alone : ∀ call ∈ task.starts input, ∀ other ∈ pool.tasks,
    ∀ aim ∈ other.aim, aim.1 = call.groupId → aim.2 = call.serverId

/-- Where the engine starts a call, no command has looked up any server for its
group. -/
def Task.Undisturbed (pool : Pool) (input : Input) (task : Task) : Prop :=
  ∀ call ∈ task.starts input, ∀ other ∈ pool.tasks,
    ∀ aim ∈ other.aim, aim.1 ≠ call.groupId

/-- No call is stopped but by a `leave_voice` for its group, which finds an
active server, and whose leave the stream takes. -/
def Task.Heard (client : Client) (input : Input) : Task → Prop
  | clearing _ _ deviceId => deviceId.isEmpty ∨ client.call = none
  | starting _ => input.deviceError.isSome ∨ client.call = none
  | retracting _ number =>
      client.call = none ∨ client.started.length = number
  | leaving groupId =>
      client.running groupId = none ∨ client.sessions.active.isSome
  | stopping _ groupId => ∀ call ∈ client.call, call.groupId = groupId
  | hangingUp _ _ _ ended => ended = none ∨ input.sendError = none
  | _ => True

/-- A condition on the task whose turn it is. -/
def AtTurn (holds : Pool → Input → Task → Prop) (pool : Pool) :
    Event → Prop
  | .start _ => True
  | .turn index input => ∀ task ∈ pool.tasks[index]?, holds pool input task

abbrev Steered : Pool → Event → Prop := AtTurn Task.Steered

abbrev Undisturbed : Pool → Event → Prop := AtTurn Task.Undisturbed

abbrev Heard : Pool → Event → Prop :=
  AtTurn fun pool input task => task.Heard pool.shared input

section Decidability

instance (message : Message) : Decidable message.Pinned :=
  inferInstanceAs (Decidable (∀ call ∈ message.about, _))

instance (client : Client) : Decidable client.Pinned :=
  inferInstanceAs (Decidable (∀ message ∈ client.sent, _))

instance (client : Client) : Decidable client.Told :=
  inferInstanceAs (Decidable (_ = _))

instance (client : Client) (groupId : String) :
    Decidable (client.OnHost groupId) :=
  inferInstanceAs (Decidable (∀ call ∈ client.hosting groupId, _))

instance (pool : Pool) (input : Input) (task : Task) :
    Decidable (task.Steered pool input) :=
  decidable_of_iff ((∀ groupId ∈ task.lookup, pool.shared.OnHost groupId) ∧
      ∀ call ∈ task.starts input, ∀ other ∈ pool.tasks,
        ∀ aim ∈ other.aim, aim.1 = call.groupId → aim.2 = call.serverId)
    ⟨fun both => ⟨both.1, both.2⟩, fun steered => ⟨steered.1, steered.2⟩⟩

instance (client : Client) (input : Input) (task : Task) :
    Decidable (task.Heard client input) :=
  match task with
  | .clearing .. => inferInstanceAs (Decidable (_ ∨ _))
  | .starting .. => inferInstanceAs (Decidable (_ ∨ _))
  | .retracting .. => inferInstanceAs (Decidable (_ ∨ _))
  | .leaving .. => inferInstanceAs (Decidable (_ ∨ _))
  | .stopping .. => inferInstanceAs (Decidable (∀ call ∈ client.call, _))
  | .hangingUp .. => inferInstanceAs (Decidable (_ ∨ _))
  | .joining .. => .isTrue trivial
  | .announcing .. => .isTrue trivial
  | .setting .. => .isTrue trivial
  | .flagging .. => .isTrue trivial
  | .connecting .. => .isTrue trivial
  | .activating .. => .isTrue trivial
  | .resetting => .isTrue trivial
  | .returned .. => .isTrue trivial

instance (holds : Pool → Input → Task → Prop)
    [∀ pool input task, Decidable (holds pool input task)] (pool : Pool)
    (event : Event) : Decidable (AtTurn holds pool event) :=
  match event with
  | .start _ => .isTrue trivial
  | .turn index _ =>
      inferInstanceAs (Decidable (∀ task ∈ pool.tasks[index]?, _))

end Decidability

/-! What is on its way, next to what was sent. -/

namespace Task

/-- A task about to send an update about a call has the host of the call. -/
def Aimed (client : Client) : Task → Prop
  | stopping serverId groupId =>
      ∀ call ∈ client.hosting groupId, serverId = call.serverId
  | hangingUp serverId _ about _ => ∀ call ∈ about, serverId = call.serverId
  | flagging serverId update =>
      ∀ call ∈ client.hosting update.groupId, serverId = call.serverId
  | _ => True

variable {client after : Client}

private theorem aimed_enter (command : Command) :
    (enter command).Aimed client := by
  cases command <;> trivial

/-- Only the host of the group that a task has looked up a server for
matters. -/
private theorem aimed_congr {task : Task}
    (same : ∀ aim ∈ task.aim, ∀ call, call ∈ after.hosting aim.1 →
      call ∈ client.hosting aim.1 ∨ aim.2 = call.serverId)
    (aimed : task.Aimed client) : task.Aimed after := by
  cases task with
  | stopping serverId groupId =>
      intro call hosted
      exact (same _ rfl call hosted).elim (aimed call) id
  | flagging serverId update =>
      intro call hosted
      exact (same _ rfl call hosted).elim (aimed call) id
  | hangingUp serverId groupId about ended => exact aimed
  | _ => trivial

private theorem aimed_onActive (next : String → Task) :
    (onActive client next).Aimed after ↔
      ∀ serverId ∈ client.sessions.active, (next serverId).Aimed after := by
  unfold onActive
  cases client.sessions.active with
  | none => exact ⟨fun _ _ never => (nomatch never), fun _ => trivial⟩
  | some serverId => simp

end Task

private theorem hosting_begin (client : Client) (call : ActiveCall)
    (groupId : String) :
    (client.begin call).hosting groupId =
      if call.groupId = groupId then some call
      else client.hosting groupId := by
  simp only [Client.hosting, Client.begin, List.find?_cons]
  by_cases same : call.groupId = groupId
  · simp [same]
  · rw [if_neg same, beq_false_of_ne same]

private theorem pinned_sendState (client : Client) (serverId : String)
    (update : StateUpdate) (about : Option ActiveCall) (input : Input) :
    (client.sendState serverId update about input).Pinned ↔
      client.Pinned ∧ ∀ call ∈ about, serverId = call.serverId := by
  simp only [Client.Pinned, Client.sendState, List.mem_append,
    List.mem_singleton, or_imp, forall_and, forall_eq, Message.Pinned]

private theorem started_advance {client : Client} {task : Task} {input : Input}
    (none : task.starts input = none) :
    (task.advance client input).1.started = client.started := by
  cases task with
  | clearing serverId groupId deviceId =>
      simp only [Task.advance, Task.clear]
      split <;> rfl
  | starting call =>
      simp only [Task.advance, Task.start]
      cases failed : input.deviceError with
      | none => simp [Task.starts, failed] at none
      | some error => rfl
  | leaving groupId =>
      simp only [Task.advance, Task.leave]
      split <;> rfl
  | _ => rfl

/-- The turn of a task leaves everything pinned and aimed exactly where it was
and the server looked up, if any, is the host. -/
private theorem advance_iff (client : Client) (task : Task) (input : Input) :
    (task.advance client input).1.Pinned ∧
        (task.advance client input).2.Aimed (task.advance client input).1 ↔
      client.Pinned ∧ task.Aimed client ∧
        ∀ groupId ∈ task.lookup, client.OnHost groupId := by
  have asked : ∀ groupId, (∀ other ∈ some groupId, client.OnHost other) ↔
      ∀ serverId ∈ client.sessions.active, ∀ call ∈ client.hosting groupId,
        serverId = call.serverId := by
    intro groupId
    simp only [Option.mem_def, Option.some.injEq, forall_eq', Client.OnHost]
    exact ⟨fun host serverId active call hosted =>
      host call hosted serverId active, fun host call hosted serverId active =>
      host serverId active call hosted⟩
  have unasked : client.Pinned ∧ True ↔ client.Pinned ∧ True ∧
      ∀ groupId ∈ (none : Option String), client.OnHost groupId := by
    simp
  cases task with
  | joining groupId deviceId =>
      refine (and_congr_right fun _ => ?_).trans unasked
      rw [Task.advance, Task.aimed_onActive]
      exact iff_true_intro fun _ _ => trivial
  | clearing serverId groupId deviceId =>
      refine Iff.trans ?_ unasked
      simp only [Task.advance, Task.clear]
      split <;> exact Iff.rfl
  | starting call =>
      refine Iff.trans ?_ unasked
      simp only [Task.advance, Task.start]
      split <;> exact Iff.rfl
  | announcing call number =>
      have own : ∀ other ∈ some call, call.serverId = other.serverId := by
        rintro other ⟨⟩
        rfl
      have sent := pinned_sendState client call.serverId
        ⟨call.groupId, true, false, false, false⟩ (some call) input
      rw [and_iff_left own] at sent
      refine Iff.trans ?_ unasked
      simp only [Task.advance, Task.announce]
      split <;> exact and_congr_left fun _ => sent
  | leaving groupId =>
      refine Iff.trans ?_ (and_congr_right fun _ =>
        (asked groupId).symm.trans (iff_of_eq (true_and _)).symm)
      simp only [Task.advance, Task.leave]
      cases client.sessions.active with
      | none => simp [Client.Pinned, Client.miss, Task.notConnected, Task.Aimed]
      | some serverId => simp [Task.Aimed]
  | stopping serverId groupId =>
      exact and_congr_right fun _ => (and_iff_left
        fun _ never => nomatch never).symm
  | hangingUp serverId groupId about ended =>
      have sent := pinned_sendState client serverId
        ⟨groupId, false, false, false, false⟩ about input
      refine Iff.trans ((and_iff_left trivial).trans sent) ?_
      exact and_congr_right fun _ => (and_iff_left
        fun _ never => nomatch never).symm
  | setting update =>
      refine Iff.trans ?_ (and_congr_right fun _ =>
        (asked update.groupId).symm.trans (iff_of_eq (true_and _)).symm)
      rw [Task.advance, Task.aimed_onActive]
      exact Iff.rfl
  | flagging serverId update =>
      have sent := pinned_sendState client serverId update
        (client.hosting update.groupId) input
      refine Iff.trans ((and_iff_left trivial).trans sent) ?_
      exact and_congr_right fun _ => (and_iff_left
        fun _ never => nomatch never).symm
  | _ => exact unasked

/-- Nothing that was sent or is on its way misses the host of its call. -/
structure Sound (pool : Pool) : Prop where
  sent : pool.shared.Pinned
  aimed : ∀ task ∈ pool.tasks, task.Aimed pool.shared

section Turns

variable {pool : Pool} {index : ℕ} {task other : Task} {input : Input}

private theorem hosting_advance (pool : Pool) (task : Task) (input : Input)
    (groupId : String) :
    (task.advance pool.shared input).1.hosting groupId =
        pool.shared.hosting groupId ∨
      ∃ call ∈ task.starts input, call.groupId = groupId ∧
        (task.advance pool.shared input).1.hosting groupId = some call := by
  cases began : task.starts input with
  | none =>
      rw [Client.hosting, started_advance began]
      exact .inl rfl
  | some call =>
      cases task with
      | starting started =>
          cases working : input.deviceError with
          | some error => simp [Task.starts, working] at began
          | none =>
              have same : started = call := by
                simpa [Task.starts, working] using began
              subst same
              simp only [Task.advance, Task.start, working, hosting_begin]
              by_cases own : started.groupId = groupId
              · rw [if_pos own]
                exact .inr ⟨started, rfl, own, rfl⟩
              · rw [if_neg own]
                exact .inl rfl
      | _ => cases began

private theorem aimed_other (steered : task.Steered pool input)
    (present : other ∈ pool.tasks) (aimed : other.Aimed pool.shared) :
    other.Aimed (task.advance pool.shared input).1 := by
  apply Task.aimed_congr _ aimed
  intro aim ahead call hosted
  rcases hosting_advance pool task input aim.1 with
    same | ⟨started, member, own, now⟩
  · exact .inl (same ▸ hosted)
  · rw [now] at hosted
    cases hosted
    exact .inr (steered.alone _ member other present aim ahead own.symm)

private theorem aimed_before (undisturbed : task.Undisturbed pool input)
    (present : other ∈ pool.tasks)
    (aimed : other.Aimed (task.advance pool.shared input).1) :
    other.Aimed pool.shared := by
  apply Task.aimed_congr _ aimed
  intro aim ahead call hosted
  rcases hosting_advance pool task input aim.1 with
    same | ⟨started, member, own, _⟩
  · exact .inl (same ▸ hosted)
  · exact absurd own.symm (undisturbed _ member other present aim ahead)

private theorem sound_turn (found : pool.tasks[index]? = some task)
    (sound : Sound pool) (steered : task.Steered pool input) :
    Sound (machine.turned pool index task input) := by
  obtain ⟨aimed, others⟩ :=
    (Slots.forall_iff_of_found found (·.Aimed pool.shared)).mp sound.aimed
  obtain ⟨sent, own⟩ := (advance_iff pool.shared task input).mpr
    ⟨sound.sent, aimed, steered.host⟩
  refine ⟨sent, (Slots.forall_set_of_found found _ _).mpr ⟨own, ?_⟩⟩
  intro other member
  exact aimed_other steered (List.mem_of_mem_eraseIdx member)
    (others other member)

private theorem sound_before (found : pool.tasks[index]? = some task)
    (undisturbed : task.Undisturbed pool input)
    (sound : Sound (machine.turned pool index task input)) :
    Sound pool ∧ task.Steered pool input := by
  obtain ⟨own, others⟩ :=
    (Slots.forall_set_of_found found _ _).mp sound.aimed
  obtain ⟨sent, aimed, host⟩ :=
    (advance_iff pool.shared task input).mp ⟨sound.sent, own⟩
  refine ⟨⟨sent, ?_⟩, host, ?_⟩
  · refine (Slots.forall_iff_of_found found _).mpr ⟨aimed, ?_⟩
    intro other member
    exact aimed_before undisturbed (List.mem_of_mem_eraseIdx member)
      (others other member)
  · intro call starts other member aim ahead same
    exact absurd same (undisturbed call starts other member aim ahead)

end Turns

private theorem sound_start_iff (pool : Pool) (command : Command) :
    Sound (machine.started pool command) ↔ Sound pool := by
  have aimed : (∀ task ∈ pool.tasks ++ [Task.enter command],
      task.Aimed pool.shared) ↔ ∀ task ∈ pool.tasks,
        task.Aimed pool.shared := by
    rw [List.forall_mem_append, List.forall_mem_singleton]
    exact and_iff_left (Task.aimed_enter command)
  constructor
  · intro after
    exact ⟨after.sent, aimed.mp after.aimed⟩
  · intro before
    exact ⟨before.sent, aimed.mpr before.aimed⟩

private theorem atTurn_found {holds : Pool → Input → Task → Prop} {pool : Pool}
    {index : ℕ} {task : Task} (found : pool.tasks[index]? = some task)
    (input : Input) :
    AtTurn holds pool (.turn index input) ↔ holds pool input task := by
  simp only [AtTurn, found, Option.mem_def, Option.some.injEq, forall_eq']

private theorem atTurn_absent {holds : Pool → Input → Task → Prop} {pool : Pool}
    {index : ℕ} (absent : pool.tasks[index]? = none) (input : Input) :
    AtTurn holds pool (.turn index input) := by
  intro task member
  rw [absent] at member
  cases member

private theorem sound_step (pool : Pool) (event : Event) (sound : Sound pool)
    (steered : Steered pool event) : Sound (machine.step pool event) := by
  cases event with
  | start command => exact (sound_start_iff pool command).mpr sound
  | turn index input =>
      cases found : pool.tasks[index]? with
      | none => rwa [Tasks.Machine.step_absent found]
      | some task =>
          rw [Tasks.Machine.step_turn found]
          exact sound_turn found sound ((atTurn_found found input).mp steered)

private theorem sound_lost (pool : Pool) (event : Event)
    (undisturbed : Undisturbed pool event)
    (sound : Sound (machine.step pool event)) :
    Sound pool ∧ Steered pool event := by
  cases event with
  | start command => exact ⟨(sound_start_iff pool command).mp sound, trivial⟩
  | turn index input =>
      cases found : pool.tasks[index]? with
      | none =>
          rw [Tasks.Machine.step_absent found] at sound
          exact ⟨sound, atTurn_absent found input⟩
      | some task =>
          rw [Tasks.Machine.step_turn found] at sound
          obtain ⟨before, steered⟩ := sound_before found
            ((atTurn_found found input).mp undisturbed) sound
          exact ⟨before, (atTurn_found found input).mpr steered⟩

/-! Which calls have told their host. -/

/-- The call that was stopped for a leave is the one that the leave is
about. -/
def Task.Coherent : Task → Prop
  | hangingUp _ _ about ended => ∀ call ∈ ended, call ∈ about
  | _ => True

/-- The engine runs the call that it has started last. -/
structure Coherent (pool : Pool) : Prop where
  current : ∀ call ∈ pool.shared.call,
    call ∈ pool.shared.hosting call.groupId
  ended : ∀ task ∈ pool.tasks, task.Coherent

section Coherence

variable {client : Client}

private theorem mem_running {call : ActiveCall} {groupId : String} :
    call ∈ client.running groupId ↔
      call ∈ client.call ∧ call.groupId = groupId := by
  simp [Client.running, Option.mem_def, Option.filter_eq_some_iff]

private theorem current_advance (task : Task) (input : Input)
    (current : ∀ call ∈ client.call, call ∈ client.hosting call.groupId) :
    ∀ call ∈ (task.advance client input).1.call,
      call ∈ (task.advance client input).1.hosting call.groupId := by
  cases task with
  | clearing serverId groupId deviceId =>
      simp only [Task.advance, Task.clear]
      split
      · exact current
      · exact fun _ never => nomatch never
  | starting call =>
      simp only [Task.advance, Task.start]
      split
      · exact current
      · rintro other ⟨⟩
        rw [hosting_begin, if_pos rfl]
        rfl
  | retracting error number => exact fun _ never => nomatch never
  | stopping serverId groupId => exact fun _ never => nomatch never
  | leaving groupId =>
      simp only [Task.advance, Task.leave]
      split <;> exact current
  | _ => exact current

private theorem coherent_advance (task : Task) (input : Input)
    (current : ∀ call ∈ client.call, call ∈ client.hosting call.groupId) :
    (task.advance client input).2.Coherent := by
  cases task with
  | joining groupId deviceId =>
      simp only [Task.advance, Task.onActive]
      split <;> trivial
  | clearing serverId groupId deviceId =>
      simp only [Task.advance, Task.clear]
      split <;> trivial
  | starting call =>
      simp only [Task.advance, Task.start]
      split <;> trivial
  | announcing call number =>
      simp only [Task.advance, Task.announce]
      split <;> trivial
  | leaving groupId =>
      simp only [Task.advance, Task.leave]
      split <;> trivial
  | stopping serverId groupId =>
      intro call stopped
      obtain ⟨runs, rfl⟩ := mem_running.mp stopped
      exact current call runs
  | setting update =>
      simp only [Task.advance, Task.onActive]
      split <;> trivial
  | _ => trivial

end Coherence

private theorem coherent_step (pool : Pool) (event : Event)
    (coherent : Coherent pool) : Coherent (machine.step pool event) := by
  cases event with
  | start command =>
      refine ⟨coherent.current, ?_⟩
      refine List.forall_mem_append.mpr ⟨coherent.ended, ?_⟩
      refine List.forall_mem_singleton.mpr ?_
      cases command <;> trivial
  | turn index input =>
      cases found : pool.tasks[index]? with
      | none => rwa [Tasks.Machine.step_absent found]
      | some task =>
          rw [Tasks.Machine.step_turn found]
          have others := (Slots.forall_iff_of_found found _).mp coherent.ended
          exact ⟨current_advance task input coherent.current,
            (Slots.forall_set_of_found found _ _).mpr
              ⟨coherent_advance task input coherent.current, others.2⟩⟩

private theorem told_miss (client : Client) (calls : Option ActiveCall) :
    calls.toList ++ client.unheard = [] ↔ client.Told ∧ calls = none := by
  rw [List.append_eq_nil_iff, Option.toList_eq_nil_iff, Client.Told, and_comm]

private theorem told_advance_iff {client : Client} {task : Task} (input : Input)
    (aimed : task.Aimed client) (coherent : task.Coherent) :
    (task.advance client input).1.Told ↔
      client.Told ∧ task.Heard client input := by
  cases task with
  | clearing serverId groupId deviceId =>
      simp only [Task.advance, Task.clear, Task.Heard]
      split
      case isTrue absent => simp [absent]
      case isFalse present =>
        rw [or_iff_right present]
        refine (told_miss client _).trans (and_congr_right fun _ => ?_)
        cases client.call <;> simp
  | starting call =>
      simp only [Task.advance, Task.start, Task.Heard]
      split
      case h_1 failed => simp [failed]
      case h_2 works =>
        rw [or_iff_right (by simp [works])]
        exact told_miss client client.call
  | retracting error number =>
      refine (told_miss client _).trans (and_congr_right fun _ => ?_)
      simp only [Task.Heard, Option.filter_eq_none_iff]
      cases client.call <;> simp
  | leaving groupId =>
      simp only [Task.advance, Task.leave, Task.Heard]
      cases client.sessions.active with
      | none =>
          rw [or_iff_left (by simp)]
          exact told_miss client (client.running groupId)
      | some serverId => simp
  | stopping serverId groupId =>
      refine (told_miss client _).trans (and_congr_right fun _ => ?_)
      simp [Task.Heard, Option.filter_eq_none_iff]
  | hangingUp serverId groupId about ended =>
      refine (told_miss client _).trans (and_congr_right fun _ => ?_)
      cases ended with
      | none => simp [Task.Heard]
      | some call =>
          have host := aimed call (coherent call rfl)
          simp only [Task.Heard, host]
          cases input.sendError <;> simp
  | _ => exact (and_iff_left trivial).symm

private theorem told_step_iff (pool : Pool) (event : Event) (sound : Sound pool)
    (coherent : Coherent pool) :
    (machine.step pool event).shared.Told ↔
      pool.shared.Told ∧ Heard pool event := by
  cases event with
  | start command => exact (and_iff_left trivial).symm
  | turn index input =>
      cases found : pool.tasks[index]? with
      | none =>
          rw [Tasks.Machine.step_absent found]
          exact (and_iff_left (atTurn_absent found input)).symm
      | some task =>
          have present := List.mem_of_getElem? found
          have heard : Heard pool (.turn index input) ↔
              task.Heard pool.shared input := atTurn_found found input
          rw [Tasks.Machine.step_turn found, heard]
          exact told_advance_iff input (sound.aimed task present)
            (coherent.ended task present)

def fresh (sessions : Sessions) : Pool where
  shared := { sessions }

def Completed (pool : Pool) : Prop :=
  ∀ task ∈ pool.tasks, ∃ error, task = .returned error

private theorem sound_fresh (sessions : Sessions) : Sound (fresh sessions) :=
  ⟨by simp [fresh, Client.Pinned], by simp [fresh]⟩

private theorem coherent_fresh (sessions : Sessions) :
    Coherent (fresh sessions) :=
  ⟨by simp [fresh], by simp [fresh]⟩

private theorem sound_of_completed {pool : Pool} (completed : Completed pool)
    (pinned : pool.shared.Pinned) : Sound pool := by
  refine ⟨pinned, ?_⟩
  intro task member
  obtain ⟨error, rfl⟩ := completed task member
  trivial

private theorem told_iff_heard {sessions : Sessions} {events : List Event}
    (steered : EventRun.Each machine.step Steered (fresh sessions) events) :
    EventRun.Always machine.step (·.shared.Told) (fresh sessions) events ↔
      EventRun.Each machine.step Heard (fresh sessions) events := by
  apply EventRun.always_iff_each_among fun pool
    (holds : Sound pool ∧ Coherent pool ∧ pool.shared.Told) => holds.2.2
  · rintro pool event ⟨sound, coherent, told⟩ steered heard
    exact ⟨sound_step pool event sound steered,
      coherent_step pool event coherent,
      (told_step_iff pool event sound coherent).mpr ⟨told, heard⟩⟩
  · rintro pool event ⟨sound, coherent, told⟩ _ unheard after
    exact unheard ((told_step_iff pool event sound coherent).mp after).2
  · exact ⟨sound_fresh sessions, coherent_fresh sessions, rfl⟩
  · exact steered

def towns : Sessions :=
  ((({} : Sessions).connect "hall" ⟨"https://hall", none⟩).connect "home"
    ⟨"https://home", none⟩)

def issue (index turns : ℕ) (command : Command) : List Event :=
  .start command :: List.replicate turns (.turn index {})

def hangUp (serverId : String) : List Event :=
  issue 0 4 (.joinVoice "g" "desk") ++
    (issue 1 1 (.setActiveServer serverId) ++ issue 2 3 (.leaveVoice "g"))

end Voice

end Accord
