import Accord.Client.VoiceMesh

/-! The handshake of two devices that are in one channel.  Of their links only
the descriptions matter: what each has offered and answered, and what the
stack was given last. -/

namespace Accord

namespace PeerLink

variable {Description Candidate : Type}
  (codec : SignalCodec Description Candidate)

structure Face (Description : Type) where
  offers : List String
  answers : List String
  remote : Option Description

/-- The face of a link that has taken no part in a handshake. -/
def Face.blank : Face Description := ⟨[], [], none⟩

def face (link : PeerLink Description Candidate) : Face Description :=
  ⟨link.messages "offer", link.messages "answer", link.pc.remote⟩

/-- The stack does what it is asked, and the description it makes is read back
from its text. -/
structure StackWorks (answer : StackAnswer Description) (json : String) :
    Prop where
  applied : answer.applied = .ok ()
  created : ∃ description, answer.created = .ok description
  setLocally : answer.setLocally = .ok ()
  written : ∃ description, answer.localDescription = some description ∧
    codec.writeDescription description = .ok json ∧
    codec.readDescription json = .ok description

variable {codec} {answer : StackAnswer Description} {json : String}
  {link : PeerLink Description Candidate}

private theorem face_flush (description : Description) :
    face { link with
        hasRemote := true
        pendingIce := []
        pc := link.pendingIce.foldl PeerConnection.addIceCandidate
          { link.pc with remote := some description } } =
      { link.face with remote := some description } := by
  rw [foldl_addIceCandidate]
  rfl

private theorem startOffer_works (works : StackWorks codec answer json) :
    startOffer codec answer link =
      (.ok (), { link with
        sent := link.sent ++ [(link.remoteDevice, "offer", json)] }) := by
  obtain ⟨description, created⟩ := works.created
  obtain ⟨own, localOne, written, -⟩ := works.written
  simp only [startOffer]
  rw [created, works.setLocally, localOne,
    Effect.bind_of_ok (reported_ok _ description),
    Effect.bind_of_ok (reported_ok _ ())]
  change Effect.bind (reported _ (codec.writeDescription own)) _ link = _
  rw [written]
  rfl

private theorem sendAnswer_works (works : StackWorks codec answer json) :
    sendAnswer codec answer link =
      (.ok (), { link with
        sent := link.sent ++ [(link.remoteDevice, "answer", json)] }) := by
  obtain ⟨description, created⟩ := works.created
  obtain ⟨own, localOne, written, -⟩ := works.written
  simp only [sendAnswer]
  rw [created, works.setLocally, localOne,
    Effect.bind_of_ok (reported_ok _ description),
    Effect.bind_of_ok (reported_ok _ ())]
  change Effect.bind (reported _ (codec.writeDescription own)) _ link = _
  rw [written]
  rfl

theorem face_startOffer (works : StackWorks codec answer json) :
    face (startOffer codec answer link).2 =
      { link.face with offers := link.face.offers ++ [json] } := by
  rw [startOffer_works works]
  simp [face, messages]

theorem face_offer (works : StackWorks codec answer json) {sdpJson : String}
    {description : Description}
    (read : codec.readDescription sdpJson = .ok description) :
    face (step codec link ⟨"offer", sdpJson, answer⟩) =
      { link.face with
        answers := link.face.answers ++ [json]
        remote := some description } := by
  have handled : step codec link ⟨"offer", sdpJson, answer⟩ =
      (acceptOffer codec answer sdpJson link).2 := rfl
  simp only [handled, acceptOffer]
  rw [read, Effect.bind_of_ok (reported_ok _ description)]
  simp only [setRemoteDescription, flushPendingIce]
  rw [works.applied, bind_assoc, Effect.bind_of_ok (reported_ok _ ()),
    Effect.update_bind, Effect.update_bind, sendAnswer_works works]
  simp [face, messages, foldl_addIceCandidate]

theorem face_answer (applied : answer.applied = .ok ()) {sdpJson : String}
    {description : Description}
    (read : codec.readDescription sdpJson = .ok description) :
    face (step codec link ⟨"answer", sdpJson, answer⟩) =
      { link.face with remote := some description } := by
  have handled : step codec link ⟨"answer", sdpJson, answer⟩ =
      (acceptAnswer codec answer sdpJson link).2 := rfl
  simp only [handled, acceptAnswer]
  rw [read, Effect.bind_of_ok (reported_ok _ description)]
  simp only [setRemoteDescription, flushPendingIce]
  rw [applied, bind_assoc, Effect.bind_of_ok (reported_ok _ ()),
    Effect.update_bind]
  exact face_flush description

private theorem keeps_face_addIce (candidateJson : String) :
    (addIce codec answer candidateJson).Keeps fun later : PeerLink _ _ =>
      later.face = link.face := by
  unfold addIce
  refine (readOnly_reported _ _).keeps.bind fun init => ?_
  refine (Effect.readOnly_read _).keeps.bind fun hasRemote => ?_
  cases hasRemote with
  | false =>
      apply Effect.keeps_update
      intro middle same
      exact same
  | true =>
      refine Effect.Keeps.bind ?_ fun _ => (readOnly_reported _ _).keeps
      apply Effect.keeps_update
      intro middle same
      exact same

/-- A candidate changes no description, and an unknown signal nothing. -/
theorem face_other {kind payload : String} (offer : kind ≠ "offer")
    (answered : kind ≠ "answer") :
    face (step codec link ⟨kind, payload, answer⟩) = link.face := by
  unfold step handle
  rw [if_neg offer, if_neg answered]
  split_ifs
  · exact keeps_face_addIce payload link rfl
  · rfl

theorem Buffered.pendingIce_eq_nil {arrived : List Candidate}
    (buffered : Buffered arrived link) {description : Description}
    (applied : link.pc.remote = some description) : link.pendingIce = [] := by
  rw [buffered.pending, applied]
  rfl

theorem face_trickle : face (link.trickle json) = link.face := by
  simp [face, trickle, messages]

end PeerLink

namespace Voice

open PeerLink (Face)

variable {Description Candidate : Type}

/-- Where the handshake of two devices is when it is with nobody's link. -/
inductive Token where
  | offering (number : ℕ)
  | offer (json : String)
  | taking (number : ℕ) (json : String)
  | answer (json : String)
  | returning (number : ℕ) (json : String)

def LinkTask.token (smaller larger : String) (task : LinkTask) :
    Option Token :=
  match task.job with
  | .offering =>
      if task.device = smaller ∧ task.peer = larger then
        some (.offering task.number)
      else none
  | .handling kind payload =>
      if kind = "offer" ∧ task.device = larger ∧ task.peer = smaller then
        some (.taking task.number payload)
      else if kind = "answer" ∧ task.device = smaller ∧
          task.peer = larger then
        some (.returning task.number payload)
      else none

def Signal.token (smaller larger : String) (signal : Signal) :
    Option Token :=
  if kindText signal.kind = "offer" ∧ signal.fromDevice = smaller ∧
      signal.targetDevice = larger then
    some (.offer signal.data)
  else if kindText signal.kind = "answer" ∧ signal.fromDevice = larger ∧
      signal.targetDevice = smaller then
    some (.answer signal.data)
  else none

/-- The link of the call to a peer, with its number. -/
def Engine.side (engine : Engine Description Candidate) (peer : String) :
    Option (ℕ × Face Description) :=
  engine.call.bind fun call =>
    (AList.lookup peer call.peers).bind fun number =>
      engine.links[number]?.map fun link => (number, link.link.face)

namespace CallMesh

variable (mesh : CallMesh Description Candidate)

def side (device peer : String) : Option (ℕ × Face Description) :=
  (mesh.engines device).side peer

def tokens (smaller larger : String) : List Token :=
  mesh.tasks.filterMap (LinkTask.token smaller larger) ++
    mesh.flight.filterMap (Signal.token smaller larger)

/-- Both are in a call, and in the same channel. -/
def Together (device peer : String) : Prop :=
  ∃ one other, (mesh.engines device).call = some one ∧
    (mesh.engines peer).call = some other ∧
      one.serverId = other.serverId ∧ one.groupId = other.groupId

def Joined (device : String) : Prop :=
  ∃ call ∈ mesh.joined, call.myDevice = device

instance (device : String) : Decidable (mesh.Joined device) :=
  inferInstanceAs (Decidable (∃ call ∈ mesh.joined, call.myDevice = device))

end CallMesh

def Waits (side : Option (ℕ × Face Description)) : Prop :=
  ∀ number face, side = some (number, face) → face = Face.blank

/-- The stages of the handshake of two devices: the side that offers, the one
that answers, and what is on its way. -/
inductive Handshake (read : String → Except String Description) :
    Option (ℕ × Face Description) → Option (ℕ × Face Description) →
      List Token → Prop
  | apart {right} (waits : Waits right) : Handshake read none right []
  | offering {number right} (waits : Waits right) :
      Handshake read (some (number, Face.blank)) right [.offering number]
  | offered {number right offer description} (waits : Waits right)
      (readable : read offer = .ok description) :
      Handshake read (some (number, ⟨[offer], [], none⟩)) right
        [.offer offer]
  | taken {number other offer description}
      (readable : read offer = .ok description) :
      Handshake read (some (number, ⟨[offer], [], none⟩))
        (some (other, Face.blank)) [.taking other offer]
  | answered {number other offer description answer reply}
      (readable : read offer = .ok description)
      (returned : read answer = .ok reply) :
      Handshake read (some (number, ⟨[offer], [], none⟩))
        (some (other, ⟨[], [answer], some description⟩)) [.answer answer]
  | returned {number other offer description answer reply}
      (readable : read offer = .ok description)
      (returned : read answer = .ok reply) :
      Handshake read (some (number, ⟨[offer], [], none⟩))
        (some (other, ⟨[], [answer], some description⟩))
        [.returning number answer]
  | done {number other offer description answer reply}
      (readable : read offer = .ok description)
      (returned : read answer = .ok reply) :
      Handshake read (some (number, ⟨[offer], [], some reply⟩))
        (some (other, ⟨[], [answer], some description⟩)) []

/-- Nobody joins twice, news of a device is true, no signal between two
devices of the channel is lost, and the stack does what it is asked. -/
def Smooth (codec : SignalCodec Description Candidate)
    (mesh : CallMesh Description Candidate) : CallEvent Description → Prop
  | .join call _ => ¬ mesh.Joined call.myDevice
  | .leave _ => True
  | .participant _ serverId groupId about joined created =>
      created = true ∧
        if joined then (⟨serverId, groupId, about⟩ : ActiveCall) ∈ mesh.joined
        else (mesh.engines about).call = none
  | .receive _ created => created = true
  | .lose index => ∀ signal ∈ mesh.flight[index]?,
      ¬ mesh.Together signal.fromDevice signal.targetDevice
  | .turn index answer => ∀ task ∈ mesh.tasks[index]?,
      mesh.Together task.device task.peer →
        ∃ json, PeerLink.StackWorks codec answer json
  | .candidate _ _ _ => True

/-- Everything is about devices that have joined, and a call has one link to
another device at most. -/
structure Orderly (mesh : CallMesh Description Candidate) : Prop where
  elected : Elected mesh
  calls : ∀ device call, (mesh.engines device).call = some call →
    call.toActiveCall ∈ mesh.joined
  links : ∀ device, ∀ link ∈ (mesh.engines device).links,
    (⟨link.serverId, link.groupId, device⟩ : ActiveCall) ∈ mesh.joined ∧
      mesh.Joined link.link.remoteDevice
  flight : ∀ signal ∈ mesh.flight,
    (⟨signal.serverId, signal.groupId, signal.fromDevice⟩ : ActiveCall) ∈
      mesh.joined ∧ mesh.Joined signal.targetDevice
  once : ∀ one ∈ mesh.joined, ∀ other ∈ mesh.joined,
    one.myDevice = other.myDevice → one = other
  sole : ∀ device call, (mesh.engines device).call = some call →
    ∀ peer, (mesh.engines peer).call ≠ none →
      ∀ number, (mesh.engines device).Names number peer →
        AList.lookup peer call.peers = some number

/-- The handshakes of the devices that are together go their way. -/
structure Progresses (codec : SignalCodec Description Candidate)
    (mesh : CallMesh Description Candidate) : Prop extends Orderly mesh where
  pairs : ∀ smaller larger, smaller < larger →
    mesh.Together smaller larger →
      Handshake codec.readDescription (mesh.side smaller larger)
        (mesh.side larger smaller) (mesh.tokens smaller larger)

section Handshakes

variable {read : String → Except String Description}
  {left right : Option (ℕ × Face Description)} {tokens : List Token}

theorem Handshake.perm (handshake : Handshake read left right tokens)
    {others : List Token} (same : tokens.Perm others) :
    Handshake read left right others := by
  have equal : others = tokens := by
    cases handshake with
    | apart | done => exact same.symm.eq_nil
    | offering | offered | taken | answered | returned =>
        exact List.perm_singleton.mp same.symm
  rwa [equal]

theorem Handshake.only (handshake : Handshake read left right tokens)
    {token : Token} {rest : List Token}
    (same : tokens.Perm (token :: rest)) : rest = [] := by
  have moved := handshake.perm same
  cases moved <;> rfl

theorem Handshake.wake (handshake : Handshake read left none tokens)
    (number : ℕ) :
    Handshake read left (some (number, Face.blank)) tokens := by
  have waits : Waits (some (number, (Face.blank : Face Description))) := by
    rintro _ _ same
    cases same
    rfl
  cases handshake with
  | apart => exact .apart waits
  | offering => exact .offering waits
  | offered _ readable => exact .offered waits readable

theorem Handshake.offering_inv {number : ℕ}
    (handshake : Handshake read left right [.offering number]) :
    left = some (number, Face.blank) ∧ Waits right := by
  cases handshake with
  | offering waits => exact ⟨rfl, waits⟩

theorem Handshake.taking_inv {other : ℕ} {offer : String}
    (handshake : Handshake read left right [.taking other offer]) :
    right = some (other, Face.blank) ∧ ∃ number description,
      left = some (number, ⟨[offer], [], none⟩) ∧
        read offer = .ok description := by
  cases handshake with
  | taken readable => exact ⟨rfl, _, _, rfl, readable⟩

theorem Handshake.returning_inv {number : ℕ} {answer : String}
    (handshake : Handshake read left right [.returning number answer]) :
    ∃ offer other description reply,
      left = some (number, ⟨[offer], [], none⟩) ∧
        right = some (other, ⟨[], [answer], some description⟩) ∧
        read offer = .ok description ∧ read answer = .ok reply := by
  cases handshake with
  | returned readable returned =>
      exact ⟨_, _, _, _, rfl, rfl, readable, returned⟩

theorem Handshake.take_offer {json : String} (number : ℕ)
    {face : Face Description}
    (handshake : Handshake read left right [.offer json])
    (side : right = none ∨ right = some (number, face)) :
    Handshake read left (some (number, Face.blank)) [.taking number json] ∧
      (right = none ∨ right = some (number, Face.blank)) := by
  cases handshake with
  | offered waits readable =>
      refine ⟨.taken readable, side.imp_right fun same => ?_⟩
      rw [same, waits number face same]

theorem Handshake.take_answer {json : String} {number : ℕ}
    {face : Face Description}
    (handshake : Handshake read left right [.answer json])
    (side : left = some (number, face)) :
    Handshake read left right [.returning number json] := by
  cases handshake with
  | answered readable returned =>
      cases side
      exact .returned readable returned

theorem Handshake.answer_left {json : String}
    (handshake : Handshake read left right [.answer json]) :
    left ≠ none := by
  cases handshake with
  | answered => exact nofun

theorem waits_none : Waits (none : Option (ℕ × Face Description)) :=
  fun _ _ none => nomatch none

theorem LinkTask.token_eq_none {smaller larger : String} {task : LinkTask}
    (other : ¬ (task.device = smaller ∧ task.peer = larger))
    (another : ¬ (task.device = larger ∧ task.peer = smaller)) :
    task.token smaller larger = none := by
  unfold token
  cases task.job with
  | offering => exact if_neg other
  | handling kind payload =>
      simp only
      rw [if_neg fun taken => another taken.2,
        if_neg fun returned => other returned.2]

theorem Signal.token_eq_none {smaller larger : String} {signal : Signal}
    (other : ¬ (signal.fromDevice = smaller ∧ signal.targetDevice = larger))
    (another : ¬ (signal.fromDevice = larger ∧
      signal.targetDevice = smaller)) :
    signal.token smaller larger = none := by
  unfold token
  rw [if_neg fun offered => other offered.2,
    if_neg fun answered => another answered.2]

theorem Signal.token_cases {smaller larger : String} {signal : Signal}
    {token : Token} (found : signal.token smaller larger = some token) :
    (kindText signal.kind = "offer" ∧ signal.fromDevice = smaller ∧
        signal.targetDevice = larger ∧ token = .offer signal.data) ∨
      (kindText signal.kind = "answer" ∧ signal.fromDevice = larger ∧
        signal.targetDevice = smaller ∧ token = .answer signal.data) := by
  unfold Signal.token at found
  split_ifs at found with offered answered
  · cases found
    exact .inl ⟨offered.1, offered.2.1, offered.2.2, rfl⟩
  · cases found
    exact .inr ⟨answered.1, answered.2.1, answered.2.2, rfl⟩

def Signal.task (signal : Signal) (number : ℕ) : LinkTask :=
  ⟨signal.targetDevice, signal.fromDevice, number,
    .handling (kindText signal.kind) signal.data⟩

def Token.taken (number : ℕ) : Token → Token
  | offer json => taking number json
  | answer json => returning number json
  | token => token

theorem Signal.token_task (signal : Signal) (number : ℕ)
    (smaller larger : String) :
    (signal.task number).token smaller larger =
      (signal.token smaller larger).map (Token.taken number) := by
  unfold Signal.token LinkTask.token task
  simp only
  by_cases offered : kindText signal.kind = "offer" ∧
      signal.fromDevice = smaller ∧ signal.targetDevice = larger
  · rw [if_pos offered, if_pos ⟨offered.1, offered.2.2, offered.2.1⟩]
    rfl
  · rw [if_neg offered, if_neg fun other =>
      offered ⟨other.1, other.2.2, other.2.1⟩]
    by_cases answered : kindText signal.kind = "answer" ∧
        signal.fromDevice = larger ∧ signal.targetDevice = smaller
    · rw [if_pos answered, if_pos ⟨answered.1, answered.2.2, answered.2.1⟩]
      rfl
    · rw [if_neg answered, if_neg fun other =>
        answered ⟨other.1, other.2.2, other.2.1⟩]
      rfl

end Handshakes

section Sides

variable {engine : Engine Description Candidate} {call : RunningCall}
  {peer : String}

theorem Engine.side_eq_some {number : ℕ} {face : Face Description} :
    engine.side peer = some (number, face) ↔
      ∃ call link, engine.call = some call ∧
        AList.lookup peer call.peers = some number ∧
        engine.links[number]? = some link ∧ link.link.face = face := by
  unfold side
  simp only [Option.bind_eq_some_iff, Option.map_eq_some_iff,
    Prod.mk.injEq]
  constructor
  · rintro ⟨call, running, position, known, link, found, rfl, rfl⟩
    exact ⟨call, link, running, known, found, rfl⟩
  · rintro ⟨call, link, running, known, found, rfl⟩
    exact ⟨call, running, number, known, link, found, rfl, rfl⟩

theorem Engine.side_eq_none_of_unknown (running : engine.call = some call)
    (unknown : AList.lookup peer call.peers = none) :
    engine.side peer = none := by
  unfold side
  rw [running, Option.bind_some, unknown]
  rfl

theorem Engine.side_connect (running : engine.call = some call)
    (names : ∀ other number, AList.lookup other call.peers = some number →
      engine.Names number other) (deviceId other : String) :
    (engine.connect call deviceId).side other =
      if other = deviceId then some (engine.links.length, Face.blank)
      else engine.side other := by
  unfold side connect
  rw [running]
  simp only [Option.bind_some, Mapping.lookup_insert_eq]
  split_ifs with same
  · simp only [Option.bind_some, List.getElem?_concat_length,
      Option.map_some]
    rfl
  · cases known : AList.lookup other call.peers with
    | none => rfl
    | some number =>
        have before := (names other number known).lt
        simp only [Option.bind_some]
        rw [List.getElem?_append_left before]

theorem Engine.side_disconnect (running : engine.call = some call)
    {deviceId other : String} (different : other ≠ deviceId) :
    (engine.disconnect call deviceId).side other = engine.side other := by
  unfold side disconnect
  rw [running]
  simp only [Option.bind_some, Mapping.lookup_erase_eq, if_neg different]

theorem Engine.side_set {number : ℕ} {old new : CallLink Description Candidate}
    (found : engine.links[number]? = some old) (other : String) :
    { engine with links := engine.links.set number new }.side other =
      (engine.side other).map fun (position, face) =>
        (position, if position = number then new.link.face else face) := by
  unfold side
  cases engine.call with
  | none => rfl
  | some call =>
      simp only [Option.bind_some]
      cases AList.lookup other call.peers with
      | none => rfl
      | some position =>
          simp only [Option.bind_some, Slots.getElem?_set_of_found found]
          split_ifs with here
          · subst here
            rw [found]
            simp
          · cases engine.links[position]? with
            | none => rfl
            | some link => simp [here]

end Sides

end Voice

end Accord
