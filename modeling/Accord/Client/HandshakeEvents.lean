import Accord.Client.OrderlyMesh

/-! Devices that come and go, and signals that are taken: whatever happens, the
handshake of each pair is at one of its stages. -/

namespace Accord

namespace Voice

open PeerLink (Face)

variable {Description Candidate : Type}

section Meshes

variable {codec : SignalCodec Description Candidate}
  {mesh : CallMesh Description Candidate}

namespace Progresses

theorem leave (progresses : Progresses codec mesh) (device : String) :
    Progresses codec (mesh.put device (mesh.engines device).leave) := by
  have alone (other : String) (running :
      ((mesh.put device (mesh.engines device).leave).engines other).call ≠
        none) : other ≠ device := by
    rintro rfl
    simp [Engine.leave] at running
  have same (other : String) (different : other ≠ device) :
      (mesh.put device (mesh.engines device).leave).engines other =
        mesh.engines other := by
    rw [CallMesh.put_engines, if_neg different]
  have linked (other : String) :
      ((mesh.put device (mesh.engines device).leave).engines other).links =
        (mesh.engines other).links := by
    rw [CallMesh.put_engines]
    split_ifs with here
    · rw [here]
      rfl
    · rfl
  refine ⟨⟨progresses.elected.leave device, ?_, ?_, progresses.flight,
    progresses.once, ?_⟩, ?_⟩
  · intro other call running
    have different := alone other (by rw [running]; exact nofun)
    rw [same other different] at running
    exact progresses.calls other call running
  · intro other link member
    rw [linked other] at member
    exact progresses.links other link member
  · intro other call running peer inCall number names
    have different := alone other (by rw [running]; exact nofun)
    rw [same peer (alone peer inCall)] at inCall
    rw [same other different] at running names
    exact progresses.sole other call running peer inCall number names
  · intro smaller larger order together
    have one := alone smaller together.left
    have other := alone larger together.right
    have before : mesh.Together smaller larger := by
      unfold CallMesh.Together at together ⊢
      rwa [same smaller one, same larger other] at together
    have handshake := progresses.pairs smaller larger order before
    rwa [CallMesh.side_put, CallMesh.side_put, if_neg one, if_neg other]

section Newcomer

variable {call : ActiveCall} (new : ¬ mesh.Joined call.myDevice)
  {after : Engine Description Candidate}
  (made : after = { mesh.engines call.myDevice with
    call := some { toActiveCall := call } })

include new made

private theorem joins_orderly (orderly : Orderly mesh)
    (elected : Elected { mesh.put call.myDevice after with
      joined := call :: mesh.joined }) :
    Orderly { mesh.put call.myDevice after with
      joined := call :: mesh.joined } := by
  have linked (other : String) :
      ((mesh.put call.myDevice after).engines other).links =
        (mesh.engines other).links := by
    rw [CallMesh.put_engines]
    split_ifs with here
    · rw [here, made]
    · rfl
  have joins (device : String) (joined : mesh.Joined device) :
      CallMesh.Joined { mesh.put call.myDevice after with
        joined := call :: mesh.joined } device := by
    obtain ⟨earlier, member, same⟩ := joined
    exact ⟨earlier, List.mem_cons_of_mem _ member, same⟩
  refine ⟨elected, ?_, ?_, ?_, ?_, ?_⟩
  · intro other running stored
    rw [CallMesh.put_engines] at stored
    split_ifs at stored with here
    · rw [made] at stored
      cases stored
      exact List.mem_cons_self
    · exact List.mem_cons_of_mem _ (orderly.calls other running stored)
  · intro other link member
    rw [linked other] at member
    obtain ⟨own, joined⟩ := orderly.links other link member
    exact ⟨List.mem_cons_of_mem _ own, joins _ joined⟩
  · intro signal member
    obtain ⟨own, joined⟩ := orderly.flight signal member
    exact ⟨List.mem_cons_of_mem _ own, joins _ joined⟩
  · intro one first other second same
    rcases List.mem_cons.mp first with newest | earlier <;>
      rcases List.mem_cons.mp second with latest | older
    · rw [newest, latest]
    · exact (new ⟨other, older, by rw [← same, newest]⟩).elim
    · exact (new ⟨one, earlier, by rw [same, latest]⟩).elim
    · exact orderly.once one earlier other older same
  · intro other running stored peer inCall number names
    have before : (mesh.engines other).Names number peer := by
      unfold Engine.Names at names ⊢
      rwa [linked other] at names
    obtain ⟨own, joined⟩ := orderly.names_joined before
    rw [CallMesh.put_engines] at stored
    rw [CallMesh.put_engines] at inCall
    split_ifs at stored with here
    · exact (new (here ▸ own)).elim
    · split_ifs at inCall with there
      · exact (new (there ▸ joined)).elim
      · exact orderly.sole other running stored peer inCall number before

private theorem side_newcomer (orderly : Orderly mesh) {device peer : String}
    (either : device = call.myDevice ∨ peer = call.myDevice) :
    (mesh.put call.myDevice after).side device peer = none := by
  rw [CallMesh.side_put]
  split_ifs with here
  · rw [made]
    rfl
  · rcases either with same | same
    · exact (here same).elim
    · exact orderly.side_eq_none (same ▸ new)

theorem joins (progresses : Progresses codec mesh)
    (elected : Elected { mesh.put call.myDevice after with
      joined := call :: mesh.joined }) :
    Progresses codec { mesh.put call.myDevice after with
      joined := call :: mesh.joined } := by
  refine ⟨joins_orderly new made progresses.toOrderly elected, ?_⟩
  intro smaller larger order together
  change Handshake _ ((mesh.put call.myDevice after).side _ _)
    ((mesh.put call.myDevice after).side _ _) (mesh.tokens _ _)
  by_cases either : smaller = call.myDevice ∨ larger = call.myDevice
  · have absent : ¬ (mesh.Joined smaller ∧ mesh.Joined larger) := by
      rintro ⟨one, other⟩
      rcases either with rfl | rfl
      · exact new one
      · exact new other
    rw [side_newcomer new made progresses.toOrderly either,
      side_newcomer new made progresses.toOrderly either.symm,
      progresses.tokens_eq_nil absent]
    exact .apart waits_none
  · rw [not_or] at either
    obtain ⟨one, other⟩ := either
    have before : mesh.Together smaller larger := by
      unfold CallMesh.Together at together ⊢
      simpa only [CallMesh.put_engines, if_neg one, if_neg other]
        using together
    have handshake := progresses.pairs smaller larger order before
    rwa [CallMesh.side_put, CallMesh.side_put, if_neg one, if_neg other]

end Newcomer

theorem join (progresses : Progresses codec mesh) {call : ActiveCall}
    (new : ¬ mesh.Joined call.myDevice) (deviceError : Option String) :
    Progresses codec (mesh.join call deviceError) := by
  have elected := progresses.elected.join call deviceError
  unfold CallMesh.join at elected ⊢
  rcases ran : (mesh.engines call.myDevice).join call deviceError with
    ⟨result, after⟩
  rw [ran] at elected
  rcases Engine.join_cases ran with ⟨failed, same | gone⟩ | ⟨rfl, -, made⟩
  · cases result with
    | ok done => exact (failed rfl).elim
    | error error =>
        subst same
        change Progresses codec (mesh.put _ (mesh.engines _))
        rwa [CallMesh.put_self]
  · cases result with
    | ok done => exact (failed rfl).elim
    | error error =>
        subst gone
        exact progresses.leave call.myDevice
  · exact joins new made progresses elected

private theorem participant_left (progresses : Progresses codec mesh)
    {device about : String} {call : RunningCall}
    (running : (mesh.engines device).call = some call)
    (gone : (mesh.engines about).call = none)
    (elected : Elected (mesh.put device
      ((mesh.engines device).disconnect call about))) :
    Progresses codec
      (mesh.put device ((mesh.engines device).disconnect call about)) := by
  refine ⟨progresses.disconnect running gone elected, ?_⟩
  intro smaller larger order together
  rw [CallMesh.together_put _ _ (by rw [running]; rfl)] at together
  have handshake := progresses.pairs smaller larger order together
  have side (one peer : String) (inCall : (mesh.engines peer).call ≠ none) :
      (mesh.put device ((mesh.engines device).disconnect call about)).side
        one peer = mesh.side one peer := by
    rw [CallMesh.side_put]
    split_ifs with here
    · subst here
      refine Engine.side_disconnect running ?_
      rintro rfl
      exact inCall gone
    · rfl
  rwa [side _ _ together.right, side _ _ together.left]

section Connects

variable {device about : String} {call : RunningCall}
  (running : (mesh.engines device).call = some call)
  (unlinked : mesh.side device about = none)

private theorem tokens_connect {smaller larger : String}
    (others : ¬ (smaller = device ∧ larger = about)) :
    (((mesh.put device
        ((mesh.engines device).connect call about)).spawn
          (Option.map (fun number => ⟨device, about, number, .offering⟩)
            (if call.myDevice < about then
              some (mesh.engines device).links.length else none))).tokens
      smaller larger).Perm (mesh.tokens smaller larger) := by
  have silent : ∀ number, LinkTask.token smaller larger
      ⟨device, about, number, .offering⟩ = none :=
    fun number => if_neg fun same => others ⟨same.1.symm, same.2.symm⟩
  split_ifs
  · refine (CallMesh.tokens_spawn _ _ _).trans ?_
    rw [silent]
    rfl
  · rw [Option.map_none, CallMesh.spawn_none]
    rfl

include running unlinked

private theorem pair_offers (progresses : Progresses codec mesh)
    (order : device < about) (together : mesh.Together device about)
    (offers : call.myDevice < about) :
    Handshake codec.readDescription
      ((mesh.put device ((mesh.engines device).connect call about)).side
        device about)
      ((mesh.put device ((mesh.engines device).connect call about)).side
        about device)
      (((mesh.put device ((mesh.engines device).connect call about)).spawn
        (Option.map (fun number => ⟨device, about, number, .offering⟩)
          (if call.myDevice < about then
            some (mesh.engines device).links.length else none))).tokens
        device about) := by
  have handshake := progresses.pairs device about order together
  have sides := progresses.side_connect running about
  have apart : ¬ (about = device ∧ device = about) := by
    rintro ⟨rfl, -⟩
    exact String.lt_irrefl _ order
  rw [unlinked] at handshake
  rw [sides, sides, if_pos ⟨rfl, rfl⟩, if_neg apart, if_pos offers]
  refine Handshake.perm ?_ (CallMesh.tokens_spawn _ _ _).symm
  generalize tokens : (mesh.put device _).tokens device about = before
  change mesh.tokens device about = before at tokens
  rw [tokens] at handshake
  cases handshake with
  | apart waits =>
      simp only [LinkTask.token, and_self, if_true]
      exact .offering waits

private theorem pair_waits (progresses : Progresses codec mesh)
    {smaller larger : String} (order : smaller < larger)
    (together : mesh.Together smaller larger)
    (others : ¬ (smaller = device ∧ larger = about)) :
    Handshake codec.readDescription
      ((mesh.put device ((mesh.engines device).connect call about)).side
        smaller larger)
      ((mesh.put device ((mesh.engines device).connect call about)).side
        larger smaller)
      (((mesh.put device ((mesh.engines device).connect call about)).spawn
        (Option.map (fun number => ⟨device, about, number, .offering⟩)
          (if call.myDevice < about then
            some (mesh.engines device).links.length else none))).tokens
        smaller larger) := by
  have handshake := progresses.pairs smaller larger order together
  have sides := progresses.side_connect running about
  rw [sides, sides, if_neg others]
  refine Handshake.perm ?_ (tokens_connect others).symm
  split_ifs with theirs
  · obtain ⟨rfl, rfl⟩ := theirs
    rw [unlinked] at handshake
    exact handshake.wake _
  · exact handshake

end Connects

theorem participant (progresses : Progresses codec mesh)
    {device serverId groupId about : String} {joined : Bool}
    (news : if joined then
        (⟨serverId, groupId, about⟩ : ActiveCall) ∈ mesh.joined
      else (mesh.engines about).call = none) :
    Progresses codec
      (mesh.participant device serverId groupId about joined true) := by
  have elected := progresses.elected.participant device serverId groupId
    about joined true
  unfold CallMesh.participant at elected ⊢
  rcases ran : (mesh.engines device).onParticipant serverId groupId about
    joined true with ⟨after, offering⟩
  rw [ran] at elected
  rcases Engine.onParticipant_cases ran with ⟨rfl, rfl⟩ |
    ⟨call, found, other, ⟨rfl, rfl, rfl⟩ | ⟨rfl, unknown, rfl, rfl⟩⟩
  · change Progresses codec ((mesh.put device _).spawn none)
    rwa [CallMesh.put_self, CallMesh.spawn_none]
  · have running := (Engine.callIn_eq_some.mp found).1
    change Progresses codec ((mesh.put device _).spawn none)
    change Elected ((mesh.put device _).spawn none) at elected
    rw [CallMesh.spawn_none] at elected ⊢
    exact progresses.participant_left running news elected
  · have running := (Engine.callIn_eq_some.mp found).1
    have own := (progresses.elected.calls device call running).1
    have known : mesh.Joined about := ⟨_, news, rfl⟩
    have unlinked : mesh.side device about = none :=
      Engine.side_eq_none_of_unknown running unknown
    refine ⟨(progresses.connect running unknown known).spawn elected, ?_⟩
    intro smaller larger order together
    have before : mesh.Together smaller larger :=
      (CallMesh.together_put mesh ((mesh.engines device).connect call about)
        (by rw [running]; rfl)).mp together
    by_cases mine : smaller = device ∧ larger = about
    · obtain ⟨rfl, rfl⟩ := mine
      exact pair_offers running unlinked progresses order before (own ▸ order)
    · exact pair_waits running unlinked progresses order before mine

/-- A signal that a device does not take is none between two devices that are
together. -/
private theorem token_dropped (progresses : Progresses codec mesh)
    {signal : Signal}
    (member : signal ∈ mesh.flight) {smaller larger : String}
    (order : smaller < larger) (together : mesh.Together smaller larger)
    {rest : List Token}
    (tokens : (mesh.tokens smaller larger).Perm
      ((signal.token smaller larger).toList ++ rest))
    (dropped : ∀ call, (mesh.engines signal.targetDevice).callIn
        signal.serverId signal.groupId = some call →
      AList.lookup signal.fromDevice call.peers = none ∧
        kindText signal.kind ≠ "offer") :
    signal.token smaller larger = none := by
  have handshake := progresses.pairs smaller larger order together
  cases found : signal.token smaller larger with
  | none => rfl
  | some token =>
      rw [found] at tokens
      have only : rest = [] := handshake.only tokens
      rw [only] at tokens
      rcases Signal.token_cases found with ⟨kind, rfl, rfl, rfl⟩ |
        ⟨kind, rfl, rfl, rfl⟩
      · obtain ⟨call, here⟩ :=
          progresses.callIn_of_together member together
        exact ((dropped call here).2 kind).elim
      · obtain ⟨call, here⟩ :=
          progresses.callIn_of_together member together.symm
        have unlinked := Engine.side_eq_none_of_unknown
          (Engine.callIn_eq_some.mp here).1 (dropped call here).1
        exact ((handshake.perm tokens).answer_left unlinked).elim

private theorem pair_taken (progresses : Progresses codec mesh)
    {signal : Signal}
    {smaller larger : String} (order : smaller < larger)
    (together : mesh.Together smaller larger) {rest : List Token}
    (tokens : (mesh.tokens smaller larger).Perm
      ((signal.token smaller larger).toList ++ rest))
    {number : ℕ} {face : Face Description}
    (side : mesh.side signal.targetDevice signal.fromDevice =
      some (number, face)) :
    Handshake codec.readDescription (mesh.side smaller larger)
      (mesh.side larger smaller)
      (((signal.task number).token smaller larger).toList ++ rest) := by
  have handshake := progresses.pairs smaller larger order together
  rw [Signal.token_task]
  cases found : signal.token smaller larger with
  | none =>
      rw [found] at tokens
      exact handshake.perm tokens
  | some token =>
      rw [found] at tokens
      have only : rest = [] := handshake.only tokens
      rw [only] at tokens ⊢
      have waiting := handshake.perm tokens
      rcases Signal.token_cases found with ⟨-, rfl, rfl, rfl⟩ |
        ⟨-, rfl, rfl, rfl⟩
      · obtain ⟨taken, none | some⟩ := waiting.take_offer _ (.inr side)
        · rw [none] at side
          cases side
        · rw [some]
          exact taken
      · exact waiting.take_answer side

section Receiving

variable {index : ℕ} {signal : Signal}
  (found : mesh.flight[index]? = some signal)

include found

private theorem receive_dropped (progresses : Progresses codec mesh)
    (dropped : ∀ call, (mesh.engines signal.targetDevice).callIn
        signal.serverId signal.groupId = some call →
      AList.lookup signal.fromDevice call.peers = none ∧
        kindText signal.kind ≠ "offer") :
    Progresses codec { mesh with flight := mesh.flight.eraseIdx index } := by
  refine ⟨progresses.toOrderly.eraseSignal index, ?_⟩
  intro smaller larger order together
  have tokens := CallMesh.tokens_eraseSignal found smaller larger
  rw [progresses.token_dropped (List.mem_of_getElem? found) order together
    tokens dropped] at tokens
  exact (progresses.pairs smaller larger order together).perm tokens

private theorem receive_known (progresses : Progresses codec mesh)
    {number : ℕ} {face : Face Description}
    (side : mesh.side signal.targetDevice signal.fromDevice =
      some (number, face))
    (elected : Elected (CallMesh.spawn
      { mesh with flight := mesh.flight.eraseIdx index }
      (some (signal.task number)))) :
    Progresses codec (CallMesh.spawn
      { mesh with flight := mesh.flight.eraseIdx index }
      (some (signal.task number))) := by
  refine ⟨(progresses.toOrderly.eraseSignal index).spawn elected, ?_⟩
  intro smaller larger order together
  have pair := progresses.pair_taken order together
    (CallMesh.tokens_eraseSignal found smaller larger) side
  exact pair.perm (CallMesh.tokens_spawn _ _ _).symm

section Offers

variable {call : RunningCall}
  (running : (mesh.engines signal.targetDevice).call = some call)
  (unknown : AList.lookup signal.fromDevice call.peers = none)
  (kind : kindText signal.kind = "offer")

include running unknown kind

private theorem pair_accepts (progresses : Progresses codec mesh)
    (order : signal.fromDevice < signal.targetDevice)
    (together : mesh.Together signal.fromDevice signal.targetDevice) :
    Handshake codec.readDescription
      (mesh.side signal.fromDevice signal.targetDevice)
      (some ((mesh.engines signal.targetDevice).links.length, Face.blank))
      (Token.taken (mesh.engines signal.targetDevice).links.length
          (.offer signal.data) ::
        CallMesh.tokens { mesh with flight := mesh.flight.eraseIdx index }
          signal.fromDevice signal.targetDevice) := by
  have handshake := progresses.pairs _ _ order together
  have rest := CallMesh.tokens_eraseSignal found signal.fromDevice
    signal.targetDevice
  have offered : signal.token signal.fromDevice signal.targetDevice =
      some (.offer signal.data) := if_pos ⟨kind, rfl, rfl⟩
  rw [offered] at rest
  have only : CallMesh.tokens
      { mesh with flight := mesh.flight.eraseIdx index }
      signal.fromDevice signal.targetDevice = [] := handshake.only rest
  have waiting := handshake.perm rest
  have unlinked : mesh.side signal.targetDevice signal.fromDevice = none ∨
      mesh.side signal.targetDevice signal.fromDevice =
        some ((mesh.engines signal.targetDevice).links.length, Face.blank) :=
    .inl (Engine.side_eq_none_of_unknown running unknown)
  rw [only] at waiting ⊢
  exact (waiting.take_offer _ unlinked).1

private theorem receive_offer (progresses : Progresses codec mesh)
    (order : signal.fromDevice < signal.targetDevice)
    (elected : Elected (CallMesh.spawn (CallMesh.put
      { mesh with flight := mesh.flight.eraseIdx index } signal.targetDevice
      ((mesh.engines signal.targetDevice).connect call signal.fromDevice))
      (some (signal.task (mesh.engines signal.targetDevice).links.length)))) :
    Progresses codec (CallMesh.spawn (CallMesh.put
      { mesh with flight := mesh.flight.eraseIdx index } signal.targetDevice
      ((mesh.engines signal.targetDevice).connect call signal.fromDevice))
      (some (signal.task
        (mesh.engines signal.targetDevice).links.length))) := by
  have orderly := progresses.toOrderly.eraseSignal index
  have joined := (progresses.flight signal (List.mem_of_getElem? found)).1
  have connected := orderly.connect running unknown ⟨_, joined, rfl⟩
  have sides := orderly.side_connect running signal.fromDevice
  refine ⟨connected.spawn elected, ?_⟩
  intro smaller larger less together
  have before : mesh.Together smaller larger :=
    (CallMesh.together_put mesh ((mesh.engines
      signal.targetDevice).connect call signal.fromDevice)
      (by rw [running]; rfl)).mp together
  have upward : ¬ (smaller = signal.targetDevice ∧
      larger = signal.fromDevice) := by
    rintro ⟨rfl, rfl⟩
    exact String.lt_asymm less order
  have own : LinkTask.token smaller larger (signal.task
      (mesh.engines signal.targetDevice).links.length) =
      (signal.token smaller larger).map
        (Token.taken (mesh.engines signal.targetDevice).links.length) :=
    Signal.token_task _ _ _ _
  refine Handshake.perm ?_ (CallMesh.tokens_spawn _ _ _).symm
  change Handshake _
    (CallMesh.side (CallMesh.put _ _ _) smaller larger)
    (CallMesh.side (CallMesh.put _ _ _) larger smaller)
    ((LinkTask.token smaller larger (signal.task
      (mesh.engines signal.targetDevice).links.length)).toList ++ _)
  rw [own, sides, sides, if_neg upward]
  split_ifs with pair
  · obtain ⟨rfl, rfl⟩ := pair
    have offered : signal.token signal.fromDevice signal.targetDevice =
        some (.offer signal.data) := if_pos ⟨kind, rfl, rfl⟩
    rw [offered]
    exact pair_accepts found running unknown kind progresses order before
  · have rest := CallMesh.tokens_eraseSignal found smaller larger
    have none : signal.token smaller larger = none := by
      cases taken : signal.token smaller larger with
      | none => rfl
      | some token =>
          rcases Signal.token_cases taken with ⟨-, sender, target, -⟩ |
            ⟨answer, -⟩
          · exact (pair ⟨target.symm, sender.symm⟩).elim
          · rw [kind] at answer
            exact absurd answer (by decide)
    rw [none] at rest ⊢
    exact (progresses.pairs smaller larger less before).perm rest

end Offers

end Receiving

theorem receive (progresses : Progresses codec mesh) {index : ℕ}
    {signal : Signal} (found : mesh.flight[index]? = some signal) :
    Progresses codec
      (CallMesh.receive { mesh with flight := mesh.flight.eraseIdx index }
        signal true) := by
  have member := List.mem_of_getElem? found
  have directed := progresses.elected.glare.flight signal member
  have orderly := progresses.toOrderly.eraseSignal index
  have elected := orderly.elected.receive directed true
  unfold CallMesh.receive at elected ⊢
  rcases ran : (mesh.engines signal.targetDevice).onSignal signal.serverId
    signal.groupId signal.fromDevice (kindText signal.kind) true with
    ⟨after, handling⟩
  simp only [ran] at elected ⊢
  have same := CallMesh.put_self
    { mesh with flight := mesh.flight.eraseIdx index } signal.targetDevice
  rcases Engine.onSignal_cases ran with ⟨rfl, rfl, dropped⟩ |
    ⟨call, here, ⟨number, known, rfl, rfl⟩ | ⟨unknown, kind, rfl, rfl⟩⟩
  · rw [Option.map_none, CallMesh.spawn_none, same]
    exact progresses.receive_dropped found fun call here =>
      ⟨(dropped call here).1, fun offer => (dropped call here).2
        ⟨offer, rfl⟩⟩
  · have running := (Engine.callIn_eq_some.mp here).1
    obtain ⟨link, stored, -⟩ :=
      (progresses.elected.calls _ call running).2 _ _ known
    have side : mesh.side signal.targetDevice signal.fromDevice =
        some (number, link.link.face) :=
      Engine.side_eq_some.mpr ⟨call, link, running, known, stored, rfl⟩
    rw [same] at elected ⊢
    exact progresses.receive_known found side elected
  · exact receive_offer found (Engine.callIn_eq_some.mp here).1 unknown kind
      progresses (directed.offer kind) elected

end Progresses

end Meshes

end Voice

end Accord
