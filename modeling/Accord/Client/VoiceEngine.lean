import Accord.Client.CallPresence
import Accord.Client.VoicePeer

/-! The engine that runs a call.  It has a link to every device that it knows
in the channel; of two devices, the one with the smaller id makes the offer. -/

namespace Accord

namespace PeerLink

variable {Description Candidate : Type}
  (codec : SignalCodec Description Candidate)
  (answer : StackAnswer Description)

def startOffer : Effect (PeerLink Description Candidate) String Unit := do
  let _ ← reported "could not create offer" answer.created
  reported "could not set local offer" answer.setLocally
  let description ← Effect.ofOption answer.localDescription
    "local description missing after set"
  let json ← reported "could not encode offer"
    (codec.writeDescription description)
  Effect.update fun link =>
    { link with sent := link.sent ++ [(link.remoteDevice, "offer", json)] }

def trickle (link : PeerLink Description Candidate) (json : String) :
    PeerLink Description Candidate :=
  { link with sent := link.sent ++ [(link.remoteDevice, "ice", json)] }

/-- What a link does: it stays with its device, and sends at most one message
to it, of a kind that it may. -/
structure Emits (kinds : String → Prop)
    (before after : PeerLink Description Candidate) : Prop where
  device : after.remoteDevice = before.remoteDevice
  sent : after.sent = before.sent ∨ ∃ kind json, kinds kind ∧
    after.sent = before.sent ++ [(before.remoteDevice, kind, json)]

def messages (link : PeerLink Description Candidate) (kind : String) :
    List String :=
  link.sent.filterMap fun (_, sent, json) =>
    if sent = kind then some json else none

section Sending

variable {kinds : String → Prop} {link : PeerLink Description Candidate}

private theorem emits_self : Emits kinds link link := ⟨rfl, .inl rfl⟩

theorem Emits.imp {wider : String → Prop}
    {after : PeerLink Description Candidate} (emits : Emits kinds link after)
    (widen : ∀ kind, kinds kind → wider kind) : Emits wider link after := by
  refine ⟨emits.device, emits.sent.imp_right ?_⟩
  rintro ⟨kind, json, allowed, sent⟩
  exact ⟨kind, json, widen kind allowed, sent⟩

theorem Emits.messages_of_not {after : PeerLink Description Candidate}
    (emits : Emits kinds link after) {kind : String} (not : ¬ kinds kind) :
    after.messages kind = link.messages kind := by
  rcases emits.sent with same | ⟨other, json, allowed, sent⟩
  · simp only [messages, same]
  · have different : other ≠ kind := by
      rintro rfl
      exact not allowed
    simp [messages, sent, different]

theorem Emits.length_messages {after : PeerLink Description Candidate}
    (emits : Emits kinds link after) (kind : String) :
    (after.messages kind).length ≤ (link.messages kind).length + 1 := by
  rcases emits.sent with same | ⟨other, json, -, sent⟩
  · simp only [messages, same]
    exact Nat.le_succ _
  · simp only [messages, sent, List.filterMap_append, List.length_append]
    apply Nat.add_le_add_left
    exact List.length_filterMap_le _ _

theorem Emits.sent_of_messages {after : PeerLink Description Candidate}
    (emits : Emits kinds link after) {kind json : String}
    (more : after.messages kind = link.messages kind ++ [json]) :
    after.sent = link.sent ++ [(link.remoteDevice, kind, json)] := by
  rcases emits.sent with same | ⟨other, text, -, sent⟩
  · simp [messages, same] at more
  · by_cases here : other = kind
    · subst here
      simp only [messages, sent, List.filterMap_append, List.filterMap_cons,
        List.filterMap_nil, if_true, List.append_cancel_left_eq,
        List.cons.injEq, and_true] at more
      rw [sent, more]
    · simp [messages, sent, here] at more

/-- What an effect does that sends nothing. -/
def Silent (before after : PeerLink Description Candidate) : Prop :=
  after.remoteDevice = before.remoteDevice ∧ after.sent = before.sent

private theorem silent_applied (link : PeerLink Description Candidate)
    (context : String) (description : Description) :
    (do setRemoteDescription answer context description
        flushPendingIce).Keeps (Silent link) := by
  unfold setRemoteDescription
  rw [bind_assoc]
  refine (readOnly_reported context answer.applied).keeps.bind fun _ => ?_
  intro middle silent
  exact silent

private theorem silent_acceptAnswer (link : PeerLink Description Candidate)
    (sdpJson : String) :
    (acceptAnswer codec answer sdpJson).Keeps (Silent link) := by
  unfold acceptAnswer
  refine (readOnly_reported _ _).keeps.bind fun description => ?_
  exact silent_applied answer link _ description

private theorem silent_addIce (link : PeerLink Description Candidate)
    (candidateJson : String) :
    (addIce codec answer candidateJson).Keeps (Silent link) := by
  unfold addIce
  refine (readOnly_reported _ _).keeps.bind fun init => ?_
  refine (Effect.readOnly_read _).keeps.bind fun hasRemote => ?_
  cases hasRemote with
  | false =>
      apply Effect.keeps_update
      intro middle silent
      exact silent
  | true =>
      refine Effect.Keeps.bind ?_ fun _ => (readOnly_reported _ _).keeps
      apply Effect.keeps_update
      intro middle silent
      exact silent

private theorem emits_sendAnswer {middle : PeerLink Description Candidate}
    (silent : Silent link middle) :
    (sendAnswer codec answer).Post middle
      fun _ after => Emits (· = "answer") link after := by
  have same : Emits (· = "answer") link middle :=
    ⟨silent.1, .inl silent.2⟩
  unfold sendAnswer
  refine (readOnly_reported _ _).post_bind (fun _ _ => same) fun _ _ => ?_
  refine (readOnly_reported _ _).post_bind (fun _ _ => same) fun _ _ => ?_
  refine (Effect.readOnly_ofOption _ _).post_bind (fun _ _ => same)
    fun _ _ => ?_
  refine (readOnly_reported _ _).post_bind (fun _ _ => same) fun json _ => ?_
  refine ⟨silent.1, .inr ⟨"answer", json, rfl, ?_⟩⟩
  change middle.sent ++ [(middle.remoteDevice, "answer", json)] = _
  rw [silent.1, silent.2]

private theorem emits_acceptOffer (link : PeerLink Description Candidate)
    (sdpJson : String) :
    (acceptOffer codec answer sdpJson).Post link
      fun _ after => Emits (· = "answer") link after := by
  unfold acceptOffer
  refine (readOnly_reported _ _).post_bind (fun _ _ => emits_self)
    fun offer _ => ?_
  rw [← bind_assoc]
  have applied : Effect.Post
      (do setRemoteDescription answer "could not apply offer" offer
          flushPendingIce) link fun _ after => Silent link after :=
    silent_applied answer link "could not apply offer" offer link ⟨rfl, rfl⟩
  refine Effect.post_bind applied ?_ ?_
  · intro error after silent
    exact ⟨silent.1, .inl silent.2⟩
  · intro _ after silent
    exact emits_sendAnswer codec answer silent

theorem emits_startOffer :
    (startOffer codec answer).Post link
      fun _ after => Emits (· = "offer") link after := by
  unfold startOffer
  refine (readOnly_reported _ _).post_bind (fun _ _ => emits_self)
    fun _ _ => ?_
  refine (readOnly_reported _ _).post_bind (fun _ _ => emits_self)
    fun _ _ => ?_
  refine (Effect.readOnly_ofOption _ _).post_bind (fun _ _ => emits_self)
    fun _ _ => ?_
  refine (readOnly_reported _ _).post_bind (fun _ _ => emits_self)
    fun json _ => ?_
  exact ⟨rfl, .inr ⟨"offer", json, rfl, rfl⟩⟩

theorem emits_step (signal : PeerSignal Description) :
    Emits (fun kind => signal.kind = "offer" ∧ kind = "answer") link
      (step codec link signal) := by
  unfold step handle
  split_ifs with offer answered ice
  · have emits := emits_acceptOffer codec signal.answer link signal.payload
    exact Emits.imp emits fun kind same => ⟨offer, same⟩
  · have silent := silent_acceptAnswer codec signal.answer link
      signal.payload link ⟨rfl, rfl⟩
    exact ⟨silent.1, .inl silent.2⟩
  · have silent := silent_addIce codec signal.answer link signal.payload link
      ⟨rfl, rfl⟩
    exact ⟨silent.1, .inl silent.2⟩
  · exact emits_self

theorem emits_trickle (json : String) :
    Emits (· = "ice") link (link.trickle json) :=
  ⟨rfl, .inr ⟨"ice", json, rfl, rfl⟩⟩

end Sending

end PeerLink

namespace Voice

/-- A link, with what its signaler puts on all that it sends. -/
structure CallLink (Description Candidate : Type) where
  serverId : String
  groupId : String
  link : PeerLink Description Candidate

/-- `peers` has the numbers of the links. -/
structure RunningCall extends ActiveCall where
  peers : Mapping String ℕ := ∅

/-- A link stays where it is when the call lets go of it: there can be tasks
that still hold it. -/
structure Engine (Description Candidate : Type) where
  call : Option RunningCall := none
  links : List (CallLink Description Candidate) := []

namespace Engine

variable {Description Candidate : Type}
  (engine : Engine Description Candidate)

def leave : Engine Description Candidate :=
  { engine with call := none }

def join (call : ActiveCall) (deviceError : Option String) :
    Effect (Engine Description Candidate) String Unit := do
  Effect.check (fun _ => !call.myDevice.isEmpty)
    "this session has no device id - reconnect and try again"
  Effect.update leave
  match deviceError with
  | some error => Effect.fail error
  | none =>
      Effect.update fun engine =>
        { engine with call := some { toActiveCall := call } }

def callIn (serverId groupId : String) : Option RunningCall :=
  engine.call.filter fun call =>
    call.serverId == serverId && call.groupId == groupId

def connect (call : RunningCall) (deviceId : String) :
    Engine Description Candidate where
  call := some { call with
    peers := call.peers.insert deviceId engine.links.length }
  links := engine.links ++
    [⟨call.serverId, call.groupId, { remoteDevice := deviceId }⟩]

def disconnect (call : RunningCall) (deviceId : String) :
    Engine Description Candidate :=
  { engine with call := some { call with
      peers := AList.erase deviceId call.peers } }

/-- With the link that is to make an offer, if one is.  The stack can fail to
create a link. -/
def onParticipant (serverId groupId deviceId : String)
    (joined created : Bool) : Engine Description Candidate × Option ℕ :=
  match engine.callIn serverId groupId with
  | none => (engine, none)
  | some call =>
      if deviceId == call.myDevice || deviceId.isEmpty then
        (engine, none)
      else if !joined then
        (engine.disconnect call deviceId, none)
      else if (AList.lookup deviceId call.peers).isSome || !created then
        (engine, none)
      else
        (engine.connect call deviceId,
          if call.myDevice < deviceId then some engine.links.length
          else none)

/-- The first half of `on_signal`: the link that is to handle the signal.
Only an offer is worth a new link. -/
def onSignal (serverId groupId fromDevice kind : String) (created : Bool) :
    Engine Description Candidate × Option ℕ :=
  match engine.callIn serverId groupId with
  | none => (engine, none)
  | some call =>
      match AList.lookup fromDevice call.peers with
      | some number => (engine, some number)
      | none =>
          if kind == "offer" && created then
            (engine.connect call fromDevice, some engine.links.length)
          else
            (engine, none)

variable {engine} {serverId groupId : String} {call : RunningCall}

theorem callIn_eq_some :
    engine.callIn serverId groupId = some call ↔
      engine.call = some call ∧ call.serverId = serverId ∧
        call.groupId = groupId := by
  simp [callIn, Option.filter_eq_some_iff]

theorem onParticipant_cases {deviceId : String} {joined created : Bool}
    {after : Engine Description Candidate} {offering : Option ℕ}
    (ran : engine.onParticipant serverId groupId deviceId joined created =
      (after, offering)) :
    (after = engine ∧ offering = none) ∨
      ∃ call, engine.callIn serverId groupId = some call ∧
        deviceId ≠ call.myDevice ∧
        ((joined = false ∧ after = engine.disconnect call deviceId ∧
            offering = none) ∨
          (joined = true ∧ AList.lookup deviceId call.peers = none ∧
            after = engine.connect call deviceId ∧
            offering = if call.myDevice < deviceId
              then some engine.links.length else none)) := by
  unfold onParticipant at ran
  cases found : engine.callIn serverId groupId with
  | none =>
      simp only [found] at ran
      cases ran
      exact .inl ⟨rfl, rfl⟩
  | some call =>
      simp only [found] at ran
      split_ifs at ran with self left known
      · cases ran
        exact .inl ⟨rfl, rfl⟩
      · have other : deviceId ≠ call.myDevice := by
          rintro rfl
          simp at self
        have gone : joined = false := by simpa using left
        cases ran
        exact .inr ⟨call, rfl, other, .inl ⟨gone, rfl, rfl⟩⟩
      · cases ran
        exact .inl ⟨rfl, rfl⟩
      all_goals
        have other : deviceId ≠ call.myDevice := by
          rintro rfl
          simp at self
        have came : joined = true := by simpa using left
        have unknown : AList.lookup deviceId call.peers = none := by
          simp only [Bool.or_eq_true, not_or, Option.not_isSome_iff_eq_none]
            at known
          exact known.1
        cases ran
        refine .inr ⟨call, rfl, other, .inr ⟨came, unknown, rfl, ?_⟩⟩
        simp [*]

theorem onSignal_cases {fromDevice kind : String} {created : Bool}
    {after : Engine Description Candidate} {handling : Option ℕ}
    (ran : engine.onSignal serverId groupId fromDevice kind created =
      (after, handling)) :
    (after = engine ∧ handling = none ∧
        ∀ call, engine.callIn serverId groupId = some call →
          AList.lookup fromDevice call.peers = none ∧
            ¬ (kind = "offer" ∧ created = true)) ∨
      ∃ call, engine.callIn serverId groupId = some call ∧
        ((∃ number, AList.lookup fromDevice call.peers = some number ∧
            after = engine ∧ handling = some number) ∨
          (AList.lookup fromDevice call.peers = none ∧ kind = "offer" ∧
            after = engine.connect call fromDevice ∧
            handling = some engine.links.length)) := by
  unfold onSignal at ran
  cases found : engine.callIn serverId groupId with
  | none =>
      simp only [found] at ran
      cases ran
      exact .inl ⟨rfl, rfl, nofun⟩
  | some call =>
      cases known : AList.lookup fromDevice call.peers with
      | some number =>
          simp only [found, known] at ran
          cases ran
          exact .inr ⟨call, rfl, .inl ⟨number, known, rfl, rfl⟩⟩
      | none =>
          simp only [found, known] at ran
          split_ifs at ran with offered
          · simp only [Bool.and_eq_true, beq_iff_eq] at offered
            cases ran
            exact .inr ⟨call, rfl, .inr ⟨known, offered.1, rfl, rfl⟩⟩
          · simp only [Bool.and_eq_true, beq_iff_eq] at offered
            cases ran
            refine .inl ⟨rfl, rfl, ?_⟩
            rintro _ same
            cases same
            exact ⟨known, offered⟩

theorem join_cases {call : ActiveCall} {deviceError : Option String}
    {after : Engine Description Candidate} {result : Except String Unit}
    (ran : engine.join call deviceError = (result, after)) :
    (result ≠ .ok () ∧ (after = engine ∨ after = engine.leave)) ∨
      (result = .ok () ∧ call.myDevice ≠ "" ∧
        after = { engine with call := some { toActiveCall := call } }) := by
  simp only [join] at ran
  rw [Effect.check_bind] at ran
  split_ifs at ran with named
  · rw [Effect.update_bind] at ran
    cases deviceError with
    | some error =>
        cases ran
        exact .inl ⟨nofun, .inr rfl⟩
    | none =>
        cases ran
        refine .inr ⟨rfl, ?_, rfl⟩
        intro empty
        simp [empty] at named
  · cases ran
    exact .inl ⟨nofun, .inl rfl⟩

end Engine

end Voice

end Accord
