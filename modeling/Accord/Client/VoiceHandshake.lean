import Accord.Client.HandshakeTurns

/-! Runs of a call: when all have come to rest, each two devices of a channel
are connected. -/

namespace Accord

namespace Voice

open PeerLink (Face)

variable {Description Candidate : Type}

section Meshes

variable {codec : SignalCodec Description Candidate}
  {mesh : CallMesh Description Candidate}

namespace Progresses

theorem lose (progresses : Progresses codec mesh) {index : ℕ}
    (apart : ∀ signal ∈ mesh.flight[index]?,
      ¬ mesh.Together signal.fromDevice signal.targetDevice) :
    Progresses codec
      { mesh with flight := mesh.flight.eraseIdx index } := by
  refine ⟨progresses.toOrderly.eraseSignal index, ?_⟩
  intro smaller larger order together
  have handshake := progresses.pairs smaller larger order together
  cases found : mesh.flight[index]? with
  | none =>
      have same : mesh.flight.eraseIdx index = mesh.flight :=
        List.eraseIdx_of_length_le (List.getElem?_eq_none_iff.mp found)
      rw [same]
      exact handshake
  | some signal =>
      have tokens := CallMesh.tokens_eraseSignal found smaller larger
      cases token : signal.token smaller larger with
      | none =>
          rw [token] at tokens
          exact handshake.perm tokens
      | some kept =>
          rcases Signal.token_cases token with ⟨-, rfl, rfl, -⟩ |
            ⟨-, rfl, rfl, -⟩
          · exact (apart signal found together).elim
          · exact (apart signal found together.symm).elim

theorem step (progresses : Progresses codec mesh)
    {event : CallEvent Description} (smooth : Smooth codec mesh event) :
    Progresses codec (mesh.step codec event) := by
  cases event with
  | join call deviceError => exact progresses.join smooth deviceError
  | leave device => exact progresses.leave device
  | participant device serverId groupId about joined created =>
      obtain ⟨rfl, news⟩ := smooth
      exact progresses.participant news
  | receive index created =>
      obtain rfl : created = true := smooth
      simp only [CallMesh.step]
      cases found : mesh.flight[index]? with
      | none => exact progresses
      | some signal => exact progresses.receive found
  | lose index => exact progresses.lose smooth
  | turn index answer =>
      simp only [CallMesh.step]
      cases found : mesh.tasks[index]? with
      | none => exact progresses
      | some task => exact progresses.turn found (smooth task found)
  | candidate device number json =>
      exact progresses.candidate device number json

end Progresses

private theorem progresses_empty (codec : SignalCodec Description Candidate) :
    Progresses codec ({} : CallMesh Description Candidate) := by
  refine ⟨⟨elected_empty, ?_, ?_, ?_, ?_, ?_⟩, ?_⟩
  · intro device call none
    cases none
  · intro device link member
    cases member
  · intro signal member
    cases member
  · intro one member
    cases member
  · intro device call none
    cases none
  · rintro smaller larger - ⟨one, other, none, -⟩
    cases none

end Meshes

/-! The links themselves, and the candidates that wait in them. -/

namespace CallMesh

variable (mesh : CallMesh Description Candidate)

def linkTo (device peer : String) : Option (PeerLink Description Candidate) :=
  (mesh.engines device).call.bind fun call =>
    (AList.lookup peer call.peers).bind fun number =>
      (mesh.engines device).links[number]?.map (·.link)

def Buffers : Prop :=
  ∀ device, ∀ link ∈ (mesh.engines device).links,
    ∃ arrived, PeerLink.Buffered arrived link.link

def Settled : Prop := mesh.tasks = [] ∧ mesh.flight = []

end CallMesh

/-- One link has offered, and the other one answered, once; each has applied
what the other one sent, and no candidate waits. -/
structure Connected (codec : SignalCodec Description Candidate)
    (offering answering : PeerLink Description Candidate) : Prop where
  exchanged : ∃ offer answer description reply,
    offering.messages "offer" = [offer] ∧ offering.messages "answer" = [] ∧
      answering.messages "offer" = [] ∧
      answering.messages "answer" = [answer] ∧
      codec.readDescription offer = .ok description ∧
      answering.pc.remote = some description ∧
      codec.readDescription answer = .ok reply ∧
      offering.pc.remote = some reply
  offeringIce : offering.pendingIce = []
  answeringIce : answering.pendingIce = []

section Runs

variable {codec : SignalCodec Description Candidate}
  {mesh : CallMesh Description Candidate}

private theorem CallMesh.linkTo_of_side {device peer : String} {number : ℕ}
    {face : Face Description}
    (side : mesh.side device peer = some (number, face)) :
    ∃ link, mesh.linkTo device peer = some link ∧ link.face = face ∧
      ∃ stored ∈ (mesh.engines device).links, stored.link = link := by
  obtain ⟨call, link, running, known, found, rfl⟩ :=
    Engine.side_eq_some.mp side
  refine ⟨link.link, ?_, rfl, link, List.mem_of_getElem? found, rfl⟩
  unfold linkTo
  rw [running, Option.bind_some, known, Option.bind_some, found]
  rfl

private theorem CallMesh.side_of_linkTo {device peer : String}
    {link : PeerLink Description Candidate}
    (linked : mesh.linkTo device peer = some link) :
    mesh.side device peer ≠ none := by
  unfold linkTo at linked
  simp only [Option.bind_eq_some_iff, Option.map_eq_some_iff] at linked
  obtain ⟨call, running, number, known, stored, found, -⟩ := linked
  have seen := Engine.side_eq_some.mpr
    ⟨call, stored, running, known, found, rfl⟩
  unfold side
  rw [seen]
  exact nofun

private theorem Handshake.done_inv {read : String → Except String Description}
    {left right : Option (ℕ × Face Description)}
    (handshake : Handshake read left right []) (begun : left ≠ none) :
    ∃ number other offer answer description reply,
      left = some (number, ⟨[offer], [], some reply⟩) ∧
        right = some (other, ⟨[], [answer], some description⟩) ∧
        read offer = .ok description ∧ read answer = .ok reply := by
  cases handshake with
  | apart => exact (begun rfl).elim
  | done readable returned =>
      exact ⟨_, _, _, _, _, _, rfl, rfl, readable, returned⟩

theorem CallMesh.Buffers.put (buffers : mesh.Buffers) {device : String}
    {after : Engine Description Candidate}
    (links : ∀ link ∈ after.links, link ∈ (mesh.engines device).links ∨
      ∃ arrived, PeerLink.Buffered arrived link.link) :
    (mesh.put device after).Buffers := by
  intro other link member
  rw [put_engines] at member
  split_ifs at member with here
  · rcases links link member with old | new
    · exact buffers device link old
    · exact new
  · exact buffers other link member

theorem CallMesh.Buffers.put_same (buffers : mesh.Buffers) {device : String}
    {after : Engine Description Candidate}
    (same : after.links = (mesh.engines device).links) :
    (mesh.put device after).Buffers :=
  buffers.put fun _ member => .inl (same ▸ member)

theorem CallMesh.Buffers.connect (buffers : mesh.Buffers) (device : String)
    (call : RunningCall) (peer : String) :
    (mesh.put device ((mesh.engines device).connect call peer)).Buffers := by
  apply buffers.put
  intro link member
  rcases List.mem_append.mp member with old | new
  · exact .inl old
  · rw [List.mem_singleton.mp new]
    exact .inr ⟨[], PeerLink.buffered_new peer⟩

theorem CallMesh.Buffers.onLink (buffers : mesh.Buffers) (device : String)
    (number : ℕ) {change : PeerLink Description Candidate →
      PeerLink Description Candidate}
    (keeps : ∀ link, (∃ arrived, PeerLink.Buffered arrived link) →
      ∃ arrived, PeerLink.Buffered arrived (change link)) :
    (mesh.onLink device number change).Buffers := by
  cases found : (mesh.engines device).links[number]? with
  | none =>
      unfold CallMesh.onLink
      rw [found]
      exact buffers
  | some old =>
      rw [onLink_of_found found]
      apply buffers.put
      intro link member
      rcases (Slots.mem_set_of_found found _ link).mp member with rfl | rest
      · exact .inr (keeps old.link
          (buffers device old (List.mem_of_getElem? found)))
      · exact .inl (List.mem_of_mem_eraseIdx rest)

private theorem LinkJob.keeps_buffered
    (codec : SignalCodec Description Candidate)
    (answer : StackAnswer Description) (job : LinkJob)
    {link : PeerLink Description Candidate} {arrived : List Candidate}
    (buffered : PeerLink.Buffered arrived link) :
    ∃ arrived, PeerLink.Buffered arrived (job.run codec answer link) := by
  cases job with
  | offering =>
      refine ⟨arrived, ?_⟩
      have keeps : (PeerLink.startOffer codec answer).Keeps
          (PeerLink.Buffered arrived :
            PeerLink Description Candidate → Prop) := by
        unfold PeerLink.startOffer
        refine (PeerLink.readOnly_reported _ _).keeps.bind fun _ => ?_
        refine (PeerLink.readOnly_reported _ _).keeps.bind fun _ => ?_
        refine (Effect.readOnly_ofOption _ _).keeps.bind fun _ => ?_
        refine (PeerLink.readOnly_reported _ _).keeps.bind fun _ => ?_
        apply Effect.keeps_update
        intro middle kept
        exact ⟨kept.flag, kept.pending, kept.handed, kept.described⟩
      exact keeps link buffered
  | handling kind payload =>
      exact ⟨_, buffered.step codec ⟨kind, payload, answer⟩⟩

theorem CallMesh.Buffers.step (buffers : mesh.Buffers)
    (event : CallEvent Description) : (mesh.step codec event).Buffers := by
  cases event with
  | join call deviceError =>
      simp only [CallMesh.step, CallMesh.join]
      rcases ran : (mesh.engines call.myDevice).join call deviceError with
        ⟨result, after⟩
      have same : after.links = (mesh.engines call.myDevice).links := by
        rcases Engine.join_cases ran with ⟨-, rfl | rfl⟩ | ⟨-, -, rfl⟩ <;> rfl
      cases result with
      | ok done => exact buffers.put_same same
      | error error => exact buffers.put_same same
  | leave device => exact buffers.put_same rfl
  | participant device serverId groupId about joined created =>
      simp only [CallMesh.step, CallMesh.participant]
      rcases ran : (mesh.engines device).onParticipant serverId groupId about
        joined created with ⟨after, offering⟩
      rcases Engine.onParticipant_cases ran with ⟨rfl, -⟩ |
        ⟨call, -, -, ⟨-, rfl, -⟩ | ⟨-, -, rfl, -⟩⟩
      · exact buffers.put_same rfl
      · exact buffers.put_same rfl
      · exact buffers.connect device call about
  | receive index created =>
      simp only [CallMesh.step]
      cases found : mesh.flight[index]? with
      | none => exact buffers
      | some signal =>
          simp only [CallMesh.receive]
          rcases ran : (mesh.engines signal.targetDevice).onSignal
            signal.serverId signal.groupId signal.fromDevice
            (kindText signal.kind) created with ⟨after, handling⟩
          rcases Engine.onSignal_cases ran with ⟨rfl, -⟩ |
            ⟨call, -, ⟨number, -, rfl, -⟩ | ⟨-, -, rfl, -⟩⟩
          · exact buffers.put_same rfl
          · exact buffers.put_same rfl
          · exact buffers.connect signal.targetDevice call signal.fromDevice
  | lose index => exact buffers
  | turn index answer =>
      simp only [CallMesh.step]
      cases found : mesh.tasks[index]? with
      | none => exact buffers
      | some task =>
          have erased : CallMesh.Buffers
              { mesh with tasks := mesh.tasks.eraseIdx index } := buffers
          refine erased.onLink task.device task.number ?_
          rintro link ⟨arrived, buffered⟩
          exact task.job.keeps_buffered codec answer buffered
  | candidate device number json =>
      refine buffers.onLink _ _ ?_
      rintro link ⟨arrived, buffered⟩
      exact ⟨arrived, buffered.flag, buffered.pending, buffered.handed,
        buffered.described⟩

/-- When nothing is on its way any more, the handshake of two devices that are
together is complete, once the smaller one knows of the larger one. -/
def CallMesh.AllConnected (codec : SignalCodec Description Candidate)
    (mesh : CallMesh Description Candidate) : Prop :=
  mesh.Settled → ∀ smaller larger, smaller < larger →
    mesh.Together smaller larger →
      ∀ offering, mesh.linkTo smaller larger = some offering →
        ∃ answering, mesh.linkTo larger smaller = some answering ∧
          Connected codec offering answering

private theorem Progresses.allConnected (progresses : Progresses codec mesh)
    (buffers : mesh.Buffers) : mesh.AllConnected codec := by
  rintro ⟨tasks, flight⟩ smaller larger order together offering linked
  have handshake := progresses.pairs smaller larger order together
  have tokens : mesh.tokens smaller larger = [] := by
    unfold CallMesh.tokens
    rw [tasks, flight]
    rfl
  rw [tokens] at handshake
  obtain ⟨number, other, offer, answer, description, reply, left, right,
    readable, returned⟩ :=
      handshake.done_inv (CallMesh.side_of_linkTo linked)
  obtain ⟨_, same, offered, one, stored, rfl⟩ :=
    CallMesh.linkTo_of_side left
  rw [linked] at same
  cases same
  obtain ⟨answering, found, answered, another, kept, rfl⟩ :=
    CallMesh.linkTo_of_side right
  obtain ⟨arrived, buffered⟩ := buffers smaller one stored
  obtain ⟨came, waiting⟩ := buffers larger another kept
  have applied : one.link.pc.remote = some reply :=
    congrArg PeerLink.Face.remote offered
  have taken : another.link.pc.remote = some description :=
    congrArg PeerLink.Face.remote answered
  refine ⟨another.link, found, ?_, buffered.pendingIce_eq_nil applied,
    waiting.pendingIce_eq_nil taken⟩
  exact ⟨offer, answer, description, reply,
    congrArg PeerLink.Face.offers offered,
    congrArg PeerLink.Face.answers offered,
    congrArg PeerLink.Face.offers answered,
    congrArg PeerLink.Face.answers answered,
    readable, taken, returned, applied⟩

/-- In every state of a smooth run, whatever the order of its events. -/
theorem calls_connect {events : List (CallEvent Description)}
    (smooth : EventRun.Each (CallMesh.step codec) (Smooth codec) {} events) :
    EventRun.Always (CallMesh.step codec) (CallMesh.AllConnected codec) {}
      events := by
  have kept (mesh : CallMesh Description Candidate)
      (event : CallEvent Description)
      (holds : Progresses codec mesh ∧ mesh.Buffers)
      (allowed : Smooth codec mesh event) :
      Progresses codec (mesh.step codec event) ∧
        (mesh.step codec event).Buffers :=
    ⟨holds.1.step allowed, holds.2.step event⟩
  have first : CallMesh.Buffers
      ({} : CallMesh Description Candidate) := by
    intro device link member
    cases member
  have always := EventRun.always_of_step kept
    ⟨progresses_empty codec, first⟩ smooth
  exact always.imp fun mesh holds => holds.1.allConnected holds.2

end Runs

private theorem plainAnswer_works (description : String) :
    PeerLink.StackWorks plainCodec (plainAnswer description) description :=
  ⟨rfl, ⟨description, rfl⟩, rfl, description, rfl, rfl, rfl⟩

private theorem twoJoin_smooth :
    EventRun.Each (CallMesh.step plainCodec) (Smooth plainCodec) {}
      twoJoin := by
  have works (mesh : CallMesh String String) (index : ℕ)
      (description : String) :
      Smooth plainCodec mesh (.turn index (plainAnswer description)) :=
    fun _ _ _ => ⟨description, plainAnswer_works description⟩
  refine ⟨?_, ?_, ⟨rfl, ?_⟩, works _ _ _, trivial, rfl, ⟨rfl, ?_⟩,
    works _ _ _, rfl, works _ _ _, rfl, works _ _ _, trivial⟩
  · change ¬ CallMesh.Joined _ _
    decide
  · change ¬ CallMesh.Joined _ _
    decide
  · change _ ∈ CallMesh.joined _
    decide
  · change _ ∈ CallMesh.joined _
    decide

theorem twoJoin_connects :
    EventRun.Always (CallMesh.step plainCodec)
        (CallMesh.AllConnected plainCodec) {} twoJoin ∧
      (EventRun.run (CallMesh.step plainCodec) {} twoJoin).Settled ∧
      ((EventRun.run (CallMesh.step plainCodec) {} twoJoin).linkTo "a"
        "b").isSome = true :=
  ⟨calls_connect twoJoin_smooth, ⟨by decide, by decide⟩, by decide⟩

end Voice

end Accord
