import Accord.Library.Effect
import Accord.Library.EventRun

/-! The connection to one other device of a call.  The relay brings candidates
in any order, also before the description that they belong to; these wait. -/

namespace Accord

/-- How the payloads of signals are read and written. -/
structure SignalCodec (Description Candidate : Type) where
  readDescription : String → Except String Description
  readCandidate : String → Except String Candidate
  writeDescription : Description → Except String String

/-- The connection of the WebRTC stack, by what it was given: the remote
description that was applied last, and the candidates, each with the
description that was there by then. -/
structure PeerConnection (Description Candidate : Type) where
  remote : Option Description := none
  candidates : List (Candidate × Option Description) := []

def PeerConnection.addIceCandidate {Description Candidate : Type}
    (pc : PeerConnection Description Candidate) (init : Candidate) :
    PeerConnection Description Candidate :=
  { pc with candidates := pc.candidates ++ [(init, pc.remote)] }

structure PeerLink (Description Candidate : Type) where
  remoteDevice : String
  pc : PeerConnection Description Candidate := {}
  pendingIce : List Candidate := []
  hasRemote : Bool := false
  sent : List (String × String × String) := []

/-- What the stack answers while a signal is handled. -/
structure StackAnswer (Description : Type) where
  applied : Except String Unit
  created : Except String Description
  setLocally : Except String Unit
  localDescription : Option Description
  added : Except String Unit

structure PeerSignal (Description : Type) where
  kind : String
  payload : String
  answer : StackAnswer Description

namespace PeerLink

variable {Description Candidate : Type}
  (codec : SignalCodec Description Candidate)
  (answer : StackAnswer Description)

/-- A call of the stack or of the codec, with what its failure is reported
as. -/
def reported {Value : Type} (context : String)
    (result : Except String Value) :
    Effect (PeerLink Description Candidate) String Value :=
  (Effect.ofExcept result).mapError fun error => context ++ ": " ++ error

/-- A description that cannot be applied leaves the connection as it is. -/
def setRemoteDescription (context : String) (description : Description) :
    Effect (PeerLink Description Candidate) String Unit := do
  reported context answer.applied
  Effect.update fun link =>
    { link with pc := { link.pc with remote := some description } }

def flushPendingIce : Effect (PeerLink Description Candidate) String Unit :=
  Effect.update fun link =>
    { link with
      hasRemote := true
      pendingIce := []
      pc := link.pendingIce.foldl PeerConnection.addIceCandidate link.pc }

def sendAnswer : Effect (PeerLink Description Candidate) String Unit := do
  let _ ← reported "could not create answer" answer.created
  reported "could not set local answer" answer.setLocally
  let description ← Effect.ofOption answer.localDescription
    "local description missing after set"
  let json ← reported "could not encode answer"
    (codec.writeDescription description)
  Effect.update fun link =>
    { link with sent := link.sent ++ [(link.remoteDevice, "answer", json)] }

def acceptOffer (sdpJson : String) :
    Effect (PeerLink Description Candidate) String Unit := do
  let offer ← reported "malformed offer" (codec.readDescription sdpJson)
  setRemoteDescription answer "could not apply offer" offer
  flushPendingIce
  sendAnswer codec answer

def acceptAnswer (sdpJson : String) :
    Effect (PeerLink Description Candidate) String Unit := do
  let description ← reported "malformed answer"
    (codec.readDescription sdpJson)
  setRemoteDescription answer "could not apply answer" description
  flushPendingIce

def addIce (candidateJson : String) :
    Effect (PeerLink Description Candidate) String Unit := do
  let init ← reported "malformed ICE candidate"
    (codec.readCandidate candidateJson)
  let hasRemote ← Effect.read (·.hasRemote)
  if !hasRemote then
    Effect.update fun link =>
      { link with pendingIce := link.pendingIce ++ [init] }
  else do
    Effect.update fun link =>
      { link with pc := link.pc.addIceCandidate init }
    reported "could not add ICE candidate" answer.added

/-- The end of `on_signal`; what fails is only logged there. -/
def handle (signal : PeerSignal Description) :
    Effect (PeerLink Description Candidate) String Unit :=
  if signal.kind = "offer" then
    acceptOffer codec signal.answer signal.payload
  else if signal.kind = "answer" then
    acceptAnswer codec signal.answer signal.payload
  else if signal.kind = "ice" then
    addIce codec signal.answer signal.payload
  else Effect.fail ("unknown signal kind " ++ signal.kind)

def step (link : PeerLink Description Candidate)
    (signal : PeerSignal Description) : PeerLink Description Candidate :=
  (handle codec signal link).2

def candidate (signal : PeerSignal Description) : Option Candidate :=
  if signal.kind = "ice" then (codec.readCandidate signal.payload).toOption
  else none

/-- The candidates in the order in which they have arrived. -/
def received (signals : List (PeerSignal Description)) : List Candidate :=
  signals.filterMap (candidate codec)

/-- All candidates wait until a description is applied, and none does any more
from then on; each is handed over once, in its turn, under a description. -/
structure Buffered (arrived : List Candidate)
    (link : PeerLink Description Candidate) : Prop where
  flag : link.hasRemote = link.pc.remote.isSome
  pending : link.pendingIce =
    if link.pc.remote.isSome then [] else arrived
  handed : link.pc.candidates.map (·.1) =
    if link.pc.remote.isSome then arrived else []
  described : ∀ entry ∈ link.pc.candidates, entry.2.isSome = true

section Steps

variable {arrived : List Candidate} {link : PeerLink Description Candidate}

theorem foldl_addIceCandidate (waiting : List Candidate)
    (pc : PeerConnection Description Candidate) :
    waiting.foldl PeerConnection.addIceCandidate pc =
      { pc with
        candidates := pc.candidates ++
          waiting.map fun init => (init, pc.remote) } := by
  induction waiting generalizing pc with
  | nil => simp
  | cons init waiting induction =>
      rw [List.foldl_cons, induction]
      simp [PeerConnection.addIceCandidate]

private theorem Buffered.arrived_eq (buffered : Buffered arrived link) :
    link.pc.candidates.map (·.1) ++ link.pendingIce = arrived := by
  rw [buffered.pending, buffered.handed]
  cases link.pc.remote with
  | none => rfl
  | some description => exact List.append_nil _

/-- The first description lets all of them through, and later ones find none
that wait. -/
private theorem Buffered.flushed (buffered : Buffered arrived link)
    (description : Description) :
    Buffered arrived { link with
      hasRemote := true
      pendingIce := []
      pc := link.pendingIce.foldl PeerConnection.addIceCandidate
        { link.pc with remote := some description } } := by
  rw [foldl_addIceCandidate]
  refine ⟨rfl, rfl, ?_, ?_⟩
  · simp only [List.map_append, List.map_map]
    have same : ((fun entry : Candidate × Option Description => entry.1) ∘
        fun init => (init, some description)) = id := rfl
    rw [same, List.map_id]
    exact buffered.arrived_eq
  · intro entry member
    rcases List.mem_append.mp member with old | new
    · exact buffered.described entry old
    · obtain ⟨init, _, rfl⟩ := List.mem_map.mp new
      rfl

theorem readOnly_reported {Value : Type} (context : String)
    (result : Except String Value) :
    (reported context result :
      Effect (PeerLink Description Candidate) String Value).ReadOnly :=
  (Effect.readOnly_ofExcept result).mapError _

private theorem keeps_applied (context : String) (description : Description) :
    (do setRemoteDescription answer context description
        flushPendingIce).Keeps
      (Buffered arrived : PeerLink Description Candidate → Prop) := by
  unfold setRemoteDescription
  rw [bind_assoc]
  refine (readOnly_reported context answer.applied).keeps.bind fun _ => ?_
  intro link buffered
  exact buffered.flushed description

private theorem keeps_sendAnswer :
    (sendAnswer codec answer).Keeps (Buffered arrived) := by
  unfold sendAnswer
  refine (readOnly_reported _ _).keeps.bind fun _ => ?_
  refine (readOnly_reported _ _).keeps.bind fun _ => ?_
  refine (Effect.readOnly_ofOption _ _).keeps.bind fun _ => ?_
  refine (readOnly_reported _ _).keeps.bind fun _ => ?_
  apply Effect.keeps_update
  intro link buffered
  exact ⟨buffered.flag, buffered.pending, buffered.handed,
    buffered.described⟩

private theorem keeps_acceptOffer (sdpJson : String) :
    (acceptOffer codec answer sdpJson).Keeps (Buffered arrived) := by
  unfold acceptOffer
  refine (readOnly_reported _ _).keeps.bind fun offer => ?_
  rw [← bind_assoc]
  exact (keeps_applied answer _ offer).bind fun _ =>
    keeps_sendAnswer codec answer

private theorem keeps_acceptAnswer (sdpJson : String) :
    (acceptAnswer codec answer sdpJson).Keeps (Buffered arrived) := by
  unfold acceptAnswer
  refine (readOnly_reported _ _).keeps.bind fun description => ?_
  exact keeps_applied answer _ description

theorem reported_ok {Value : Type} (context : String) (value : Value) :
    reported context (.ok value) link = (.ok value, link) := rfl

private theorem addIce_malformed {candidateJson error : String}
    (read : codec.readCandidate candidateJson = .error error) :
    (addIce codec answer candidateJson link).2 = link := by
  unfold addIce
  rw [read]
  rfl

private theorem addIce_waits {candidateJson : String} {init : Candidate}
    (read : codec.readCandidate candidateJson = .ok init)
    (without : link.hasRemote = false) :
    (addIce codec answer candidateJson link).2 =
      { link with pendingIce := link.pendingIce ++ [init] } := by
  unfold addIce
  rw [read, Effect.bind_of_ok (reported_ok _ init),
    Effect.bind_of_ok (Effect.read_of_eq without)]
  rfl

private theorem addIce_handed {candidateJson : String} {init : Candidate}
    (read : codec.readCandidate candidateJson = .ok init)
    (applied : link.hasRemote = true) :
    (addIce codec answer candidateJson link).2 =
      { link with pc := link.pc.addIceCandidate init } := by
  unfold addIce
  rw [read, Effect.bind_of_ok (reported_ok _ init),
    Effect.bind_of_ok (Effect.read_of_eq applied)]
  exact readOnly_reported _ answer.added _

theorem Buffered.addIce (buffered : Buffered arrived link)
    (candidateJson : String) :
    Buffered
      (arrived ++ (codec.readCandidate candidateJson).toOption.toList)
      (addIce codec answer candidateJson link).2 := by
  cases read : codec.readCandidate candidateJson with
  | error error =>
      rw [addIce_malformed codec answer read]
      change Buffered (arrived ++ []) link
      rwa [List.append_nil]
  | ok init =>
      have flag := buffered.flag
      have pending := buffered.pending
      have handed := buffered.handed
      cases remote : link.pc.remote with
      | none =>
          rw [remote] at flag pending handed
          rw [addIce_waits codec answer read flag]
          refine ⟨?_, ?_, ?_, buffered.described⟩
          · rw [remote]
            exact flag
          · rw [remote, pending]
            rfl
          · rw [remote]
            exact handed
      | some description =>
          rw [remote] at flag pending handed
          rw [addIce_handed codec answer read flag]
          refine ⟨?_, ?_, ?_, ?_⟩
          · change link.hasRemote = link.pc.remote.isSome
            rw [remote]
            exact flag
          · change link.pendingIce = if link.pc.remote.isSome then _ else _
            rw [remote]
            exact pending
          · change (link.pc.candidates ++ [(init, link.pc.remote)]).map
              (·.1) = if link.pc.remote.isSome then _ else _
            rw [List.map_append, handed, remote]
            rfl
          · intro entry member
            rcases List.mem_append.mp member with old | new
            · exact buffered.described entry old
            · rw [List.mem_singleton.mp new, remote]
              rfl

private theorem candidate_of_ne_ice {signal : PeerSignal Description}
    (other : signal.kind ≠ "ice") : candidate codec signal = none :=
  if_neg other

theorem Buffered.step (buffered : Buffered arrived link)
    (signal : PeerSignal Description) :
    Buffered (arrived ++ (candidate codec signal).toList)
      (step codec link signal) := by
  unfold PeerLink.step handle
  have nothing (other : signal.kind ≠ "ice") :
      arrived ++ (candidate codec signal).toList = arrived := by
    rw [candidate_of_ne_ice codec other]
    exact List.append_nil arrived
  split_ifs with offer answered ice
  · rw [nothing (by simp [offer])]
    exact keeps_acceptOffer codec _ _ link buffered
  · rw [nothing (by simp [answered])]
    exact keeps_acceptAnswer codec _ _ link buffered
  · unfold candidate
    rw [if_pos ice]
    exact buffered.addIce codec _ _
  · rwa [nothing ice]

theorem Buffered.run (buffered : Buffered arrived link)
    (signals : List (PeerSignal Description)) :
    Buffered (arrived ++ received codec signals)
      (EventRun.run (PeerLink.step codec) link signals) := by
  induction signals generalizing arrived link with
  | nil =>
      change Buffered (arrived ++ []) link
      rwa [List.append_nil]
  | cons signal rest induction =>
      have later := induction (buffered.step codec signal)
      rw [List.append_assoc] at later
      have split : received codec (signal :: rest) =
          (candidate codec signal).toList ++ received codec rest := by
        unfold received
        cases found : candidate codec signal <;> simp [found]
      rwa [split]

end Steps

theorem buffered_new (remoteDevice : String) :
    Buffered []
      ({ remoteDevice := remoteDevice } :
        PeerLink Description Candidate) :=
  ⟨rfl, rfl, rfl, fun _ member => nomatch member⟩

/-- In every order of signals. -/
theorem ice_buffered (remoteDevice : String)
    (signals : List (PeerSignal Description)) :
    Buffered (received codec signals)
      (EventRun.run (step codec) { remoteDevice := remoteDevice } signals) := by
  have run := (buffered_new remoteDevice).run codec signals
  rwa [List.nil_append] at run

end PeerLink

end Accord
