import Accord.Client.VoiceEngine
import Accord.Library.Slots

/-! The engines of all devices and the signals between them.  A signal is sent
from a task of its own, so signals come in any order; news of who is in a
channel comes from the server at any time.  A client that is in a call on
another server is in none here. -/

namespace Accord

namespace Voice

/-- The codes of `SignalKind`. -/
def kindCode (kind : String) : ℕ :=
  if kind = "offer" then 1
  else if kind = "answer" then 2
  else if kind = "ice" then 3
  else 0

def kindText : ℕ → String
  | 1 => "offer"
  | 2 => "answer"
  | 3 => "ice"
  | _ => "unknown"

/-- A signal on its way, with the sender that the server has put on it and the
session over which it goes. -/
structure Signal where
  serverId : String
  groupId : String
  fromDevice : String
  targetDevice : String
  kind : ℕ
  data : String
  deriving DecidableEq

inductive LinkJob where
  | offering
  | handling (kind payload : String)
  deriving DecidableEq

/-- What is still to do with the link of a device to a peer. -/
structure LinkTask where
  device : String
  peer : String
  number : ℕ
  job : LinkJob
  deriving DecidableEq

/-- `joined` has the calls that were started, newest first.  Nothing in the
code keeps it. -/
structure CallMesh (Description Candidate : Type) where
  engines : String → Engine Description Candidate := fun _ => {}
  tasks : List LinkTask := []
  flight : List Signal := []
  joined : List ActiveCall := []

/-- `lose` stands for all that can happen to a signal on its way: a closed
stream, a refusal of the server, a target that is not connected. -/
inductive CallEvent (Description : Type) where
  | join (call : ActiveCall) (deviceError : Option String)
  | leave (device : String)
  | participant (device serverId groupId about : String)
      (joined created : Bool)
  | receive (index : ℕ) (created : Bool)
  | lose (index : ℕ)
  | turn (index : ℕ) (answer : StackAnswer Description)
  | candidate (device : String) (number : ℕ) (json : String)

variable {Description Candidate : Type}

/-- The messages a link has sent from a position on, as signals. -/
def CallLink.posted (link : CallLink Description Candidate) (device : String)
    (before : ℕ) : List Signal :=
  (link.link.sent.drop before).map fun (target, kind, json) =>
    ⟨link.serverId, link.groupId, device, target, kindCode kind, json⟩

def LinkJob.run (codec : SignalCodec Description Candidate)
    (answer : StackAnswer Description) (link : PeerLink Description Candidate) :
    LinkJob → PeerLink Description Candidate
  | offering => (link.startOffer codec answer).2
  | handling kind payload => link.step codec ⟨kind, payload, answer⟩

namespace CallMesh

variable (codec : SignalCodec Description Candidate)
  (mesh : CallMesh Description Candidate)

def put (device : String) (engine : Engine Description Candidate) :
    CallMesh Description Candidate :=
  { mesh with engines := Function.update mesh.engines device engine }

def spawn (task : Option LinkTask) : CallMesh Description Candidate :=
  { mesh with tasks := mesh.tasks ++ task.toList }

def join (call : ActiveCall) (deviceError : Option String) :
    CallMesh Description Candidate :=
  match (mesh.engines call.myDevice).join call deviceError with
  | (.ok (), after) =>
      { mesh.put call.myDevice after with joined := call :: mesh.joined }
  | (.error _, after) => mesh.put call.myDevice after

def participant (device serverId groupId about : String)
    (joined created : Bool) : CallMesh Description Candidate :=
  match (mesh.engines device).onParticipant serverId groupId about joined
    created with
  | (after, offering) =>
      (mesh.put device after).spawn (offering.map fun number =>
        ⟨device, about, number, .offering⟩)

def receive (signal : Signal) (created : Bool) :
    CallMesh Description Candidate :=
  match (mesh.engines signal.targetDevice).onSignal signal.serverId
    signal.groupId signal.fromDevice (kindText signal.kind) created with
  | (after, handling) =>
      (mesh.put signal.targetDevice after).spawn (handling.map fun number =>
        ⟨signal.targetDevice, signal.fromDevice, number,
          .handling (kindText signal.kind) signal.data⟩)

/-- What happens to one link, and what it sends then. -/
def onLink (device : String) (number : ℕ)
    (change : PeerLink Description Candidate →
      PeerLink Description Candidate) : CallMesh Description Candidate :=
  match (mesh.engines device).links[number]? with
  | none => mesh
  | some old =>
      let new := { old with link := change old.link }
      { mesh.put device { mesh.engines device with
          links := (mesh.engines device).links.set number new } with
        flight := mesh.flight ++ new.posted device old.link.sent.length }

def step : CallEvent Description → CallMesh Description Candidate
  | .join call deviceError => mesh.join call deviceError
  | .leave device => mesh.put device (mesh.engines device).leave
  | .participant device serverId groupId about joined created =>
      mesh.participant device serverId groupId about joined created
  | .receive index created =>
      match mesh.flight[index]? with
      | none => mesh
      | some signal =>
          { mesh with flight := mesh.flight.eraseIdx index }.receive signal
            created
  | .lose index => { mesh with flight := mesh.flight.eraseIdx index }
  | .turn index answer =>
      match mesh.tasks[index]? with
      | none => mesh
      | some task =>
          { mesh with tasks := mesh.tasks.eraseIdx index }.onLink task.device
            task.number fun link => task.job.run codec answer link
  | .candidate device number json =>
      mesh.onLink device number (·.trickle json)

end CallMesh

/-- An offer goes to the larger id, and an answer to the smaller one. -/
structure Signal.Directed (signal : Signal) : Prop where
  offer : kindText signal.kind = "offer" →
    signal.fromDevice < signal.targetDevice
  answer : kindText signal.kind = "answer" →
    signal.targetDevice < signal.fromDevice

/-- A link is on one side of the handshake only, and offers once at most. -/
structure OneSided (device : String) (link : PeerLink Description Candidate) :
    Prop where
  offers : link.messages "offer" ≠ [] → device < link.remoteDevice
  answers : link.messages "answer" ≠ [] → link.remoteDevice < device
  once : (link.messages "offer").length ≤ 1

def LinkTask.Directed (task : LinkTask) : Prop :=
  match task.job with
  | .offering => task.device < task.peer
  | .handling kind _ =>
      (kind = "offer" → task.peer < task.device) ∧
        (kind = "answer" → task.device < task.peer)

def LinkTask.offers (device : String) (number : ℕ) (task : LinkTask) : Bool :=
  task.device == device && task.number == number && task.job == .offering

/-- The link of this number is to the peer. -/
def Engine.Names (engine : Engine Description Candidate) (number : ℕ)
    (peer : String) : Prop :=
  ∃ link, engine.links[number]? = some link ∧ link.link.remoteDevice = peer

/-- No two devices ever offer to each other: neither is a signal on its way
against the order of the ids, nor has a link sent against it. -/
structure NoGlare (mesh : CallMesh Description Candidate) : Prop where
  flight : ∀ signal ∈ mesh.flight, signal.Directed
  links : ∀ device, ∀ link ∈ (mesh.engines device).links,
    OneSided device link.link

/-- A link that is still to offer has not done so, and no other task is to
offer for it. -/
structure Elected (mesh : CallMesh Description Candidate) : Prop where
  glare : NoGlare mesh
  tasks : ∀ task ∈ mesh.tasks, task.Directed ∧
    (mesh.engines task.device).Names task.number task.peer
  calls : ∀ device call, (mesh.engines device).call = some call →
    call.myDevice = device ∧ ∀ peer number,
      AList.lookup peer call.peers = some number →
        (mesh.engines device).Names number peer
  once : ∀ device number link,
    (mesh.engines device).links[number]? = some link →
      mesh.tasks.countP (LinkTask.offers device number) +
        (link.link.messages "offer").length ≤ 1

section Election

variable {mesh : CallMesh Description Candidate}
  {engine after : Engine Description Candidate}

theorem Engine.Names.lt {number : ℕ} {peer : String}
    (names : engine.Names number peer) : number < engine.links.length := by
  obtain ⟨link, found, -⟩ := names
  exact (List.getElem?_eq_some_iff.mp found).1

theorem Engine.Names.append {number : ℕ} {peer : String}
    (names : engine.Names number peer)
    {more : List (CallLink Description Candidate)}
    (links : after.links = engine.links ++ more) :
    after.Names number peer := by
  obtain ⟨link, found, same⟩ := names
  refine ⟨link, ?_, same⟩
  have before := (List.getElem?_eq_some_iff.mp found).1
  rw [links, List.getElem?_append_left before, found]

theorem Engine.Names.set {number : ℕ} {peer : String}
    (names : engine.Names number peer) {position : ℕ}
    {old new : CallLink Description Candidate}
    (found : engine.links[position]? = some old)
    (same : new.link.remoteDevice = old.link.remoteDevice) :
    { engine with links := engine.links.set position new }.Names number
      peer := by
  obtain ⟨link, stored, names⟩ := names
  unfold Engine.Names
  simp only [Slots.getElem?_set_of_found found]
  split_ifs with here
  · refine ⟨new, rfl, ?_⟩
    rw [here, found] at stored
    cases stored
    rwa [same]
  · exact ⟨link, stored, names⟩

@[simp] theorem CallMesh.put_engines (device other : String) :
    (mesh.put device after).engines other =
      if other = device then after else mesh.engines other :=
  Function.update_apply _ _ _ _

@[simp] theorem CallMesh.put_tasks (device : String) :
    (mesh.put device after).tasks = mesh.tasks := rfl

@[simp] theorem CallMesh.put_flight (device : String) :
    (mesh.put device after).flight = mesh.flight := rfl

private theorem Elected.countP_offers (elected : Elected mesh) (device : String)
    {number : ℕ} (beyond : (mesh.engines device).links.length ≤ number) :
    mesh.tasks.countP (LinkTask.offers device number) = 0 := by
  apply List.countP_eq_zero.mpr
  intro task member offers
  simp only [LinkTask.offers, Bool.and_eq_true, beq_iff_eq] at offers
  obtain ⟨⟨rfl, rfl⟩, -⟩ := offers
  exact Nat.not_lt.mpr beyond (elected.tasks task member).2.lt

theorem Elected.put (elected : Elected mesh) {device : String}
    (more : List (CallLink Description Candidate))
    (links : after.links = (mesh.engines device).links ++ more)
    (silent : ∀ link ∈ more, link.link.sent = [])
    (call : ∀ call, after.call = some call →
      call.myDevice = device ∧ ∀ peer number,
        AList.lookup peer call.peers = some number →
          after.Names number peer) :
    Elected (mesh.put device after) := by
  refine ⟨⟨elected.glare.flight, ?_⟩, ?_, ?_, ?_⟩
  · intro other link member
    rw [CallMesh.put_engines] at member
    split_ifs at member with same
    · subst same
      rw [links] at member
      cases List.mem_append.mp member with
      | inl old => exact elected.glare.links other link old
      | inr new =>
          have none : ∀ kind, link.link.messages kind = [] := by
            intro kind
            simp only [PeerLink.messages, silent link new]
            rfl
          exact ⟨fun some => (some (none _)).elim,
            fun some => (some (none _)).elim, by simp [none]⟩
    · exact elected.glare.links other link member
  · intro task member
    obtain ⟨directed, names⟩ := elected.tasks task member
    refine ⟨directed, ?_⟩
    rw [CallMesh.put_engines]
    split_ifs with same
    · rw [same] at names
      exact names.append links
    · exact names
  · intro other running stored
    rw [CallMesh.put_engines] at stored ⊢
    split_ifs at stored ⊢ with same
    · rw [same]
      exact call running stored
    · exact elected.calls other running stored
  · intro other number link found
    rw [CallMesh.put_engines] at found
    split_ifs at found with same
    · subst same
      rw [links] at found
      by_cases before : number < (mesh.engines other).links.length
      · rw [List.getElem?_append_left before] at found
        exact elected.once other number link found
      · have beyond := Nat.not_lt.mp before
        rw [List.getElem?_append_right beyond] at found
        have none := silent link (List.mem_of_getElem? found)
        have free := elected.countP_offers _ beyond
        simp [PeerLink.messages, none, free]
    · exact elected.once other number link found

theorem Elected.add (elected : Elected mesh) (task : LinkTask)
    (directed : task.Directed)
    (names : (mesh.engines task.device).Names task.number task.peer)
    (first : task.job = .offering → ∀ link,
      (mesh.engines task.device).links[task.number]? = some link →
        mesh.tasks.countP (LinkTask.offers task.device task.number) +
          (link.link.messages "offer").length = 0) :
    Elected { mesh with tasks := mesh.tasks ++ [task] } := by
  refine ⟨⟨elected.glare.flight, elected.glare.links⟩, ?_, elected.calls, ?_⟩
  · intro other member
    cases List.mem_append.mp member with
    | inl old => exact elected.tasks other old
    | inr new =>
        rw [List.mem_singleton.mp new]
        exact ⟨directed, names⟩
  · intro device number link found
    have before := elected.once device number link found
    simp only [List.countP_append, List.countP_singleton]
    split_ifs with offers
    · simp only [LinkTask.offers, Bool.and_eq_true, beq_iff_eq] at offers
      obtain ⟨⟨rfl, rfl⟩, offering⟩ := offers
      have none := first offering link found
      omega
    · exact before

theorem Elected.spawn_none (elected : Elected mesh) :
    Elected (mesh.spawn none) := by
  unfold CallMesh.spawn
  rw [Option.toList_none, List.append_nil]
  exact elected

theorem Elected.eraseTask (elected : Elected mesh) (index : ℕ) :
    Elected { mesh with tasks := mesh.tasks.eraseIdx index } := by
  refine ⟨⟨elected.glare.flight, elected.glare.links⟩, ?_, elected.calls, ?_⟩
  · intro task member
    exact elected.tasks task (List.mem_of_mem_eraseIdx member)
  · intro device number link found
    have before := elected.once device number link found
    have fewer : (mesh.tasks.eraseIdx index).countP
        (LinkTask.offers device number) ≤
          mesh.tasks.countP (LinkTask.offers device number) :=
      (List.eraseIdx_sublist _ _).countP_le
    exact Nat.le_trans (Nat.add_le_add_right fewer _) before

theorem Elected.eraseSignal (elected : Elected mesh) (index : ℕ) :
    Elected { mesh with flight := mesh.flight.eraseIdx index } :=
  ⟨⟨fun signal member => elected.glare.flight signal
    (List.mem_of_mem_eraseIdx member), elected.glare.links⟩,
    elected.tasks, elected.calls, elected.once⟩

private theorem kindText_kindCode {kind : String}
    (known : kind = "offer" ∨ kind = "answer" ∨ kind = "ice") :
    kindText (kindCode kind) = kind := by
  rcases known with rfl | rfl | rfl <;> rfl

theorem CallLink.mem_posted {old : CallLink Description Candidate}
    {after : PeerLink Description Candidate} {kinds : String → Prop}
    (emits : PeerLink.Emits kinds old.link after) {device : String}
    {signal : Signal}
    (member : signal ∈ { old with link := after }.posted device
      old.link.sent.length) :
    ∃ kind json, kinds kind ∧
      signal = ⟨old.serverId, old.groupId, device, old.link.remoteDevice,
        kindCode kind, json⟩ := by
  unfold posted at member
  rcases emits.sent with same | ⟨kind, json, allowed, sent⟩
  · simp [same] at member
  · simp only [sent, List.drop_left, List.map_cons, List.map_nil,
      List.mem_singleton] at member
    exact ⟨kind, json, allowed, member⟩

theorem OneSided.emits {link after : PeerLink Description Candidate}
    {device : String} {kinds : String → Prop}
    (sided : OneSided device link)
    (emits : PeerLink.Emits kinds link after)
    (offers : kinds "offer" →
      device < link.remoteDevice ∧ (link.messages "offer").length = 0)
    (answers : kinds "answer" → link.remoteDevice < device) :
    OneSided device after := by
  refine ⟨?_, ?_, ?_⟩
  · intro some
    rw [emits.device]
    by_cases allowed : kinds "offer"
    · exact (offers allowed).1
    · rw [emits.messages_of_not allowed] at some
      exact sided.offers some
  · intro some
    rw [emits.device]
    by_cases allowed : kinds "answer"
    · exact answers allowed
    · rw [emits.messages_of_not allowed] at some
      exact sided.answers some
  · by_cases allowed : kinds "offer"
    · have grown := emits.length_messages "offer"
      rwa [(offers allowed).2] at grown
    · rw [emits.messages_of_not allowed]
      exact sided.once

section OnLink

variable {device : String} {number : ℕ} {kinds : String → Prop}
  {change : PeerLink Description Candidate → PeerLink Description Candidate}
  (emits : ∀ link, PeerLink.Emits kinds link (change link))
  {old : CallLink Description Candidate}
  (found : (mesh.engines device).links[number]? = some old)

include emits found

theorem Engine.Names.onLink {other : String} {position : ℕ} {peer : String}
    (names : (mesh.engines other).Names position peer) :
    ((mesh.put device { mesh.engines device with
      links := (mesh.engines device).links.set number
        { old with link := change old.link } }).engines other).Names
      position peer := by
  rw [CallMesh.put_engines]
  split_ifs with same
  · rw [same] at names
    exact names.set found (emits old.link).device
  · exact names

private theorem Elected.links_onLink (elected : Elected mesh)
    (offers : kinds "offer" → device < old.link.remoteDevice ∧
      mesh.tasks.countP (LinkTask.offers device number) +
        (old.link.messages "offer").length = 0)
    (answers : kinds "answer" → old.link.remoteDevice < device)
    (other : String) :
    ∀ link ∈ ((mesh.put device { mesh.engines device with
        links := (mesh.engines device).links.set number
          { old with link := change old.link } }).engines other).links,
      OneSided other link.link := by
  intro link member
  rw [CallMesh.put_engines] at member
  split_ifs at member with same
  · subst same
    cases (Slots.mem_set_of_found found _ link).mp member with
    | inr rest =>
        exact elected.glare.links _ link (List.mem_of_mem_eraseIdx rest)
    | inl new =>
        subst new
        have before :=
          elected.glare.links other old (List.mem_of_getElem? found)
        refine before.emits (emits old.link) (fun allowed => ?_) answers
        obtain ⟨order, none⟩ := offers allowed
        exact ⟨order, by omega⟩
  · exact elected.glare.links other link member

/-- A link that offers now had not done so before, nor has a task to. -/
private theorem Elected.once_onLink (elected : Elected mesh)
    (offers : kinds "offer" →
      mesh.tasks.countP (LinkTask.offers device number) +
        (old.link.messages "offer").length = 0)
    {other : String} {position : ℕ} {link : CallLink Description Candidate}
    (located : ((mesh.put device { mesh.engines device with
        links := (mesh.engines device).links.set number
          { old with link := change old.link } }).engines
      other).links[position]? = some link) :
    mesh.tasks.countP (LinkTask.offers other position) +
      (link.link.messages "offer").length ≤ 1 := by
  rw [CallMesh.put_engines] at located
  split_ifs at located with same
  · subst same
    rcases Slots.set_cases found located with ⟨rfl, rfl⟩ | ⟨_, rest⟩
    · change _ + ((change old.link).messages "offer").length ≤ 1
      by_cases allowed : kinds "offer"
      · have grown := (emits old.link).length_messages "offer"
        have none := offers allowed
        omega
      · rw [(emits old.link).messages_of_not allowed]
        exact elected.once other position old found
    · exact elected.once other position link rest
  · exact elected.once other position link located

end OnLink

theorem Elected.onLink (elected : Elected mesh) {device : String}
    {number : ℕ} (kinds : String → Prop)
    {change : PeerLink Description Candidate →
      PeerLink Description Candidate}
    (emits : ∀ link, PeerLink.Emits kinds link (change link))
    (known : ∀ kind, kinds kind →
      kind = "offer" ∨ kind = "answer" ∨ kind = "ice")
    (offers : kinds "offer" → ∀ link,
      (mesh.engines device).links[number]? = some link →
        device < link.link.remoteDevice ∧
          mesh.tasks.countP (LinkTask.offers device number) +
            (link.link.messages "offer").length = 0)
    (answers : kinds "answer" → ∀ link,
      (mesh.engines device).links[number]? = some link →
        link.link.remoteDevice < device) :
    Elected (mesh.onLink device number change) := by
  unfold CallMesh.onLink
  cases found : (mesh.engines device).links[number]? with
  | none => exact elected
  | some old =>
      refine ⟨⟨?_, ?_⟩, ?_, ?_, ?_⟩
      · intro signal member
        cases List.mem_append.mp member with
        | inl earlier => exact elected.glare.flight signal earlier
        | inr new =>
            obtain ⟨kind, json, allowed, rfl⟩ :=
              CallLink.mem_posted (emits old.link) new
            have read := kindText_kindCode (known kind allowed)
            refine ⟨?_, ?_⟩
            · intro offer
              exact (offers (read.symm.trans offer ▸ allowed) old found).1
            · intro answer
              exact answers (read.symm.trans answer ▸ allowed) old found
      · exact elected.links_onLink emits found
          (fun allowed => offers allowed old found)
          fun allowed => answers allowed old found
      · intro task member
        obtain ⟨directed, names⟩ := elected.tasks task member
        exact ⟨directed, names.onLink emits found⟩
      · intro other running call
        have same : (mesh.engines other).call = some running := by
          rw [CallMesh.put_engines] at call
          split_ifs at call with here
          · rwa [here]
          · exact call
        obtain ⟨own, names⟩ := elected.calls other running same
        exact ⟨own, fun peer position stored =>
          (names peer position stored).onLink emits found⟩
      · intro other position link located
        exact elected.once_onLink emits found
          (fun allowed => (offers allowed old found).2) located

theorem Engine.Names.remoteDevice {number : ℕ} {peer : String}
    (names : engine.Names number peer)
    {link : CallLink Description Candidate}
    (found : engine.links[number]? = some link) :
    link.link.remoteDevice = peer := by
  obtain ⟨other, stored, same⟩ := names
  rw [found] at stored
  cases stored
  exact same

private theorem Engine.names_connect (call : RunningCall) (deviceId : String) :
    (engine.connect call deviceId).Names engine.links.length deviceId :=
  ⟨⟨call.serverId, call.groupId, { remoteDevice := deviceId }⟩,
    by simp [Engine.connect], rfl⟩

theorem Elected.put_same (elected : Elected mesh) (device : String)
    (links : after.links = (mesh.engines device).links)
    (call : ∀ call, after.call = some call → call.myDevice = device ∧
      ∀ peer number, AList.lookup peer call.peers = some number →
        (mesh.engines device).Names number peer) :
    Elected (mesh.put device after) := by
  refine elected.put [] (by rw [links, List.append_nil])
    (fun _ member => nomatch member) ?_
  intro running stored
  obtain ⟨own, names⟩ := call running stored
  refine ⟨own, fun peer number known => ?_⟩
  exact (names peer number known).append
    (by rw [links]; exact (List.append_nil _).symm)

theorem Elected.leave (elected : Elected mesh) (device : String) :
    Elected (mesh.put device (mesh.engines device).leave) :=
  elected.put_same device rfl fun _ none => nomatch none

theorem Elected.join (elected : Elected mesh) (call : ActiveCall)
    (deviceError : Option String) :
    Elected (mesh.join call deviceError) := by
  unfold CallMesh.join
  rcases ran : (mesh.engines call.myDevice).join call deviceError with
    ⟨result, after⟩
  rcases Engine.join_cases ran with ⟨failed, same | gone⟩ | ⟨rfl, -, made⟩
  · cases result with
    | ok done => exact (failed rfl).elim
    | error error =>
        subst same
        exact elected.put_same _ rfl (elected.calls call.myDevice)
  · cases result with
    | ok done => exact (failed rfl).elim
    | error error =>
        subst gone
        exact elected.leave call.myDevice
  · subst made
    have placed : Elected (mesh.put call.myDevice
        { mesh.engines call.myDevice with
          call := some { toActiveCall := call } }) := by
      refine elected.put_same _ rfl ?_
      intro running stored
      cases stored
      exact ⟨rfl, fun peer number known => nomatch known⟩
    exact ⟨⟨placed.glare.flight, placed.glare.links⟩, placed.tasks,
      placed.calls, placed.once⟩

theorem Elected.connect (elected : Elected mesh) {device : String}
    {call : RunningCall} (running : (mesh.engines device).call = some call)
    (deviceId : String) :
    Elected (mesh.put device
      ((mesh.engines device).connect call deviceId)) := by
  refine elected.put [_] rfl (fun link member => ?_) ?_
  · rw [List.mem_singleton.mp member]
  · intro made stored
    cases stored
    obtain ⟨own, names⟩ := elected.calls device call running
    refine ⟨own, fun peer number known => ?_⟩
    rw [Mapping.lookup_insert_eq] at known
    split_ifs at known with same
    · cases known
      rw [same]
      exact Engine.names_connect call deviceId
    · exact (names peer number known).append rfl

theorem Elected.participant (elected : Elected mesh)
    (device serverId groupId about : String) (joined created : Bool) :
    Elected (mesh.participant device serverId groupId about joined
      created) := by
  unfold CallMesh.participant
  rcases ran : (mesh.engines device).onParticipant serverId groupId about
    joined created with ⟨after, offering⟩
  rcases Engine.onParticipant_cases ran with ⟨rfl, rfl⟩ |
    ⟨call, found, other, ⟨-, rfl, rfl⟩ | ⟨-, unknown, rfl, rfl⟩⟩
  · have same := elected.put_same device rfl
      (elected.calls device)
    exact same.spawn_none
  · have running := (Engine.callIn_eq_some.mp found).1
    obtain ⟨own, names⟩ := elected.calls device call running
    have without := elected.put_same device
      (show ((mesh.engines device).disconnect call about).links = _ from rfl)
      (by
        intro made stored
        cases stored
        refine ⟨own, fun peer number known => names peer number ?_⟩
        rw [Mapping.lookup_erase_eq] at known
        split_ifs at known
        exact known)
    exact without.spawn_none
  · have running := (Engine.callIn_eq_some.mp found).1
    have made := elected.connect running about
    obtain ⟨own, -⟩ := elected.calls device call running
    split_ifs with smaller
    · refine made.add ⟨device, about, _, .offering⟩ ?_ ?_ ?_
      · rwa [own] at smaller
      · rw [CallMesh.put_engines, if_pos rfl]
        exact Engine.names_connect call about
      · intro _ link stored
        rw [CallMesh.put_engines, if_pos rfl] at stored
        have free := elected.countP_offers device (Nat.le_refl _)
        simp only [Engine.connect, List.getElem?_concat_length,
          Option.some.injEq] at stored
        subst stored
        simp [free, PeerLink.messages]
    · exact made.spawn_none

theorem Elected.receive (elected : Elected mesh) {signal : Signal}
    (directed : signal.Directed) (created : Bool) :
    Elected (mesh.receive signal created) := by
  unfold CallMesh.receive
  rcases ran : (mesh.engines signal.targetDevice).onSignal signal.serverId
    signal.groupId signal.fromDevice (kindText signal.kind) created with
    ⟨after, handling⟩
  have allowed (number : ℕ) : LinkTask.Directed
      ⟨signal.targetDevice, signal.fromDevice, number,
        .handling (kindText signal.kind) signal.data⟩ :=
    ⟨directed.offer, directed.answer⟩
  rcases Engine.onSignal_cases ran with ⟨rfl, rfl, -⟩ |
    ⟨call, found, ⟨number, known, rfl, rfl⟩ | ⟨unknown, -, rfl, rfl⟩⟩
  · have same := elected.put_same signal.targetDevice rfl
      (elected.calls signal.targetDevice)
    exact same.spawn_none
  · have running := (Engine.callIn_eq_some.mp found).1
    have same := elected.put_same signal.targetDevice rfl
      (elected.calls signal.targetDevice)
    refine same.add _ (allowed number) ?_ nofun
    rw [CallMesh.put_engines, if_pos rfl]
    exact (elected.calls _ call running).2 _ _ known
  · have running := (Engine.callIn_eq_some.mp found).1
    refine (elected.connect running signal.fromDevice).add _
      (allowed _) ?_ nofun
    rw [CallMesh.put_engines, if_pos rfl]
    exact Engine.names_connect call _

/-- The kinds of messages a job may send. -/
def LinkJob.kinds : LinkJob → String → Prop
  | offering, kind => kind = "offer"
  | handling handled _, kind => handled = "offer" ∧ kind = "answer"

theorem LinkJob.emits_run (codec : SignalCodec Description Candidate)
    (answer : StackAnswer Description) (job : LinkJob)
    (link : PeerLink Description Candidate) :
    PeerLink.Emits job.kinds link (job.run codec answer link) := by
  cases job with
  | offering => exact PeerLink.emits_startOffer codec answer
  | handling kind payload =>
      exact PeerLink.emits_step codec ⟨kind, payload, answer⟩

private theorem LinkJob.kinds_offer {job : LinkJob}
    (allowed : job.kinds "offer") :
    job = .offering := by
  cases job with
  | offering => rfl
  | handling handled payload => exact absurd allowed.2 (by decide)

private theorem LinkJob.kinds_answer {job : LinkJob}
    (allowed : job.kinds "answer") :
    ∃ payload, job = .handling "offer" payload := by
  cases job with
  | offering => exact absurd (show "answer" = "offer" from allowed) (by decide)
  | handling handled payload => exact ⟨payload, by rw [allowed.1]⟩

private theorem LinkJob.kinds_known {job : LinkJob} {kind : String}
    (allowed : job.kinds kind) : kind = "offer" ∨ kind = "answer" := by
  cases job with
  | offering => exact .inl allowed
  | handling handled payload => exact .inr allowed.2

theorem Elected.turn (codec : SignalCodec Description Candidate)
    (elected : Elected mesh) {index : ℕ} {task : LinkTask}
    (found : mesh.tasks[index]? = some task)
    (answer : StackAnswer Description) :
    Elected ({ mesh with tasks := mesh.tasks.eraseIdx index }.onLink
      task.device task.number fun link => task.job.run codec answer link) := by
  obtain ⟨directed, names⟩ :=
    elected.tasks task (List.mem_of_getElem? found)
  unfold LinkTask.Directed at directed
  refine (elected.eraseTask index).onLink _
    (task.job.emits_run codec answer) ?_ ?_ ?_
  · intro kind allowed
    exact (LinkJob.kinds_known allowed).imp_right .inl
  · intro allowed link stored
    have job := LinkJob.kinds_offer allowed
    rw [job] at directed
    have parted := Slots.countP_of_found found
      (LinkTask.offers task.device task.number)
    have own : LinkTask.offers task.device task.number task = true := by
      simp [LinkTask.offers, job]
    have budget := elected.once task.device task.number link stored
    rw [parted, own, Bool.toNat_true] at budget
    refine ⟨?_, ?_⟩
    · rw [names.remoteDevice stored]
      exact directed
    · change (mesh.tasks.eraseIdx index).countP _ + _ = 0
      omega
  · intro allowed link stored
    obtain ⟨payload, job⟩ := LinkJob.kinds_answer allowed
    rw [job] at directed
    rw [names.remoteDevice stored]
    exact directed.1 rfl

theorem Elected.step (codec : SignalCodec Description Candidate)
    (elected : Elected mesh) (event : CallEvent Description) :
    Elected (mesh.step codec event) := by
  cases event with
  | join call deviceError => exact elected.join call deviceError
  | leave device => exact elected.leave device
  | participant device serverId groupId about joined created =>
      exact elected.participant device serverId groupId about joined created
  | receive index created =>
      simp only [CallMesh.step]
      cases found : mesh.flight[index]? with
      | none => exact elected
      | some signal =>
          exact (elected.eraseSignal index).receive
            (elected.glare.flight signal (List.mem_of_getElem? found)) created
  | lose index => exact elected.eraseSignal index
  | turn index answer =>
      simp only [CallMesh.step]
      cases found : mesh.tasks[index]? with
      | none => exact elected
      | some task => exact elected.turn codec found answer
  | candidate device number json =>
      refine elected.onLink (· = "ice")
        (fun link => PeerLink.emits_trickle json) ?_ nofun nofun
      intro kind same
      exact .inr (.inr same)

theorem elected_empty : Elected ({} : CallMesh Description Candidate) := by
  refine ⟨⟨?_, ?_⟩, ?_, ?_, ?_⟩
  · intro signal member
    cases member
  · intro device link member
    cases member
  · intro task member
    cases member
  · intro device call none
    cases none
  · intro device number link none
    cases none

end Election

/-- Whoever joins, leaves or joins again, in whatever order news and signals
arrive, and whatever fails or is lost. -/
theorem never_glares (codec : SignalCodec Description Candidate)
    (events : List (CallEvent Description)) :
    EventRun.Always (CallMesh.step codec) NoGlare {} events := by
  have kept (mesh : CallMesh Description Candidate)
      (event : CallEvent Description) (elected : Elected mesh) :
      Elected (mesh.step codec event) := elected.step codec event
  have elected := EventRun.always_of_kept kept elected_empty events
  exact elected.imp fun mesh elected => elected.glare

/-! How much is still to come of what is on its way. -/

/-- An offer is to be handled, its answer to be sent and handled. -/
def Signal.weight (signal : Signal) : ℕ :=
  if kindText signal.kind = "offer" then 4 else 2

def LinkTask.weight (task : LinkTask) : ℕ :=
  match task.job with
  | .offering => 5
  | .handling kind _ => if kind = "offer" then 3 else 1

def CallMesh.weight (mesh : CallMesh Description Candidate) : ℕ :=
  Slots.load LinkTask.weight mesh.tasks + Slots.load Signal.weight mesh.flight

/-- The event delivers a signal, or does a task. -/
def Delivers (mesh : CallMesh Description Candidate) :
    CallEvent Description → Prop
  | .receive index _ => index < mesh.flight.length
  | .lose index => index < mesh.flight.length
  | .turn index _ => index < mesh.tasks.length
  | _ => False

section Deliveries

variable {mesh : CallMesh Description Candidate}

private theorem CallMesh.weight_spawn (mesh : CallMesh Description Candidate)
    (task : Option LinkTask) :
    (mesh.spawn task).weight =
      mesh.weight + Slots.load LinkTask.weight task.toList := by
  unfold weight spawn
  rw [Slots.load_append]
  exact Nat.add_right_comm _ _ _

private theorem CallMesh.weight_put (device : String)
    (after : Engine Description Candidate) :
    (mesh.put device after).weight = mesh.weight := rfl

private theorem CallMesh.weight_receive_le
    (mesh : CallMesh Description Candidate)
    (signal : Signal) (created : Bool) :
    (mesh.receive signal created).weight < mesh.weight + signal.weight := by
  unfold receive
  rcases (mesh.engines signal.targetDevice).onSignal signal.serverId
    signal.groupId signal.fromDevice (kindText signal.kind) created with
    ⟨after, handling⟩
  simp only [weight_spawn, weight_put]
  apply Nat.add_lt_add_left
  unfold Signal.weight
  cases handling with
  | none =>
      change 0 < _
      split_ifs <;> decide
  | some number =>
      simp only [Option.map_some, Option.toList_some, Slots.load,
        LinkTask.weight]
      split_ifs <;> decide

private theorem CallMesh.weight_onLink_lt
    (mesh : CallMesh Description Candidate)
    (codec : SignalCodec Description Candidate)
    (answer : StackAnswer Description) (task : LinkTask) :
    (mesh.onLink task.device task.number
      (task.job.run codec answer ·)).weight < mesh.weight + task.weight := by
  have some : 0 < task.weight := by
    unfold LinkTask.weight
    cases task.job with
    | offering => decide
    | handling kind payload =>
        simp only
        split_ifs <;> decide
  unfold onLink
  cases found : (mesh.engines task.device).links[task.number]? with
  | none => exact Nat.lt_add_of_pos_right some
  | some old =>
      simp only [weight, Slots.load_append, put_tasks, ← Nat.add_assoc]
      apply Nat.add_lt_add_left
      have emits := task.job.emits_run codec answer old.link
      unfold CallLink.posted
      rcases emits.sent with same | ⟨kind, json, allowed, sent⟩
      · simpa [same, Slots.load] using some
      · simp only [sent, List.drop_left, List.map_cons, List.map_nil,
          Slots.load, Nat.add_zero, Signal.weight]
        rw [kindText_kindCode ((LinkJob.kinds_known allowed).imp_right .inl)]
        unfold LinkTask.weight
        cases job : task.job with
        | offering => split_ifs <;> decide
        | handling handled payload =>
            rw [job] at allowed
            rw [allowed.2]
            simp only [allowed.1, if_true]
            decide

private theorem CallMesh.weight_step_lt
    (codec : SignalCodec Description Candidate)
    (event : CallEvent Description) (delivers : Delivers mesh event) :
    (mesh.step codec event).weight < mesh.weight := by
  cases event with
  | receive index created =>
      obtain ⟨signal, found⟩ : ∃ signal, mesh.flight[index]? = some signal :=
        ⟨_, List.getElem?_eq_getElem delivers⟩
      have parted := Slots.load_of_found found Signal.weight
      have less := weight_receive_le
        { mesh with flight := mesh.flight.eraseIdx index } signal created
      simp only [step, found]
      unfold weight at less ⊢
      simp only at less ⊢
      omega
  | lose index =>
      obtain ⟨signal, found⟩ : ∃ signal, mesh.flight[index]? = some signal :=
        ⟨_, List.getElem?_eq_getElem delivers⟩
      have parted := Slots.load_of_found found Signal.weight
      have some : 0 < signal.weight := by
        unfold Signal.weight
        split_ifs <;> decide
      simp only [step, weight]
      omega
  | turn index answer =>
      obtain ⟨task, found⟩ : ∃ task, mesh.tasks[index]? = some task :=
        ⟨_, List.getElem?_eq_getElem delivers⟩
      have parted := Slots.load_of_found found LinkTask.weight
      have less := weight_onLink_lt
        { mesh with tasks := mesh.tasks.eraseIdx index } codec answer task
      simp only [step, found]
      unfold weight at less ⊢
      simp only at less ⊢
      omega
  | join | leave | participant | candidate => exact delivers.elim

/-- From any state on, deliveries come to an end. -/
theorem deliveries_end (codec : SignalCodec Description Candidate)
    (mesh : CallMesh Description Candidate)
    {events : List (CallEvent Description)}
    (delivers : EventRun.Each (CallMesh.step codec) Delivers mesh events) :
    events.length ≤ mesh.weight :=
  EventRun.length_le_of_decreases
    (fun _ event delivers => CallMesh.weight_step_lt codec event delivers)
    delivers

end Deliveries

def plainCodec : SignalCodec String String :=
  ⟨.ok, .ok, .ok⟩

def plainAnswer (description : String) : StackAnswer String :=
  ⟨.ok (), .ok description, .ok (), some description, .ok ()⟩

/-- Two devices join; the larger one hears of the smaller one last, when the
offer is there already. -/
def twoJoin : List (CallEvent String) :=
  [.join ⟨"s", "g", "a"⟩ none, .join ⟨"s", "g", "b"⟩ none,
    .participant "a" "s" "g" "b" true true, .turn 0 (plainAnswer "offer"),
    .candidate "a" 0 "ice", .receive 0 true,
    .participant "b" "s" "g" "a" true true, .turn 0 (plainAnswer "answer"),
    .receive 0 true, .turn 0 (plainAnswer ""), .receive 0 true,
    .turn 0 (plainAnswer "")]

/-- After the first seven events only deliveries are left. -/
theorem twoJoin_deliveries :
    (twoJoin.drop 7).length ≤
      (EventRun.run (CallMesh.step plainCodec) {} (twoJoin.take 7)).weight := by
  apply deliveries_end plainCodec
  refine ⟨?_, ?_, ?_, ?_, ?_, trivial⟩ <;> change _ < List.length _ <;> decide

end Voice

end Accord
