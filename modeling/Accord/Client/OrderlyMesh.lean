import Accord.Client.Handshake

/-! The engines of a call, each with one link to another device at most, and
what an event leaves of the handshakes it has no part in. -/

namespace Accord

namespace Voice

open PeerLink (Face)

variable {Description Candidate : Type}

section Meshes

variable {codec : SignalCodec Description Candidate}
  {mesh : CallMesh Description Candidate}

theorem CallMesh.put_self (mesh : CallMesh Description Candidate)
    (device : String) : mesh.put device (mesh.engines device) = mesh := by
  unfold put
  rw [Function.update_eq_self]

theorem CallMesh.spawn_none (mesh : CallMesh Description Candidate) :
    mesh.spawn none = mesh := by
  unfold spawn
  rw [Option.toList_none, List.append_nil]

theorem CallMesh.side_put (device other peer : String)
    (after : Engine Description Candidate) :
    (mesh.put device after).side other peer =
      if other = device then after.side peer else mesh.side other peer := by
  unfold side
  rw [put_engines]
  split_ifs <;> rfl

theorem CallMesh.Together.symm {device peer : String}
    (together : mesh.Together device peer) : mesh.Together peer device := by
  obtain ⟨one, other, running, calling, server, group⟩ := together
  exact ⟨other, one, calling, running, server.symm, group.symm⟩

theorem CallMesh.Together.left {device peer : String}
    (together : mesh.Together device peer) :
    (mesh.engines device).call ≠ none := by
  obtain ⟨one, other, running, -⟩ := together
  rw [running]
  exact nofun

theorem CallMesh.Together.right {device peer : String}
    (together : mesh.Together device peer) :
    (mesh.engines peer).call ≠ none := together.symm.left

theorem CallMesh.together_put (mesh : CallMesh Description Candidate)
    {device : String} (after : Engine Description Candidate)
    (same : after.call.map RunningCall.toActiveCall =
      (mesh.engines device).call.map RunningCall.toActiveCall)
    {one other : String} :
    (mesh.put device after).Together one other ↔ mesh.Together one other := by
  have channel (party : String) (serverId groupId : String) :
      (∃ call, ((mesh.put device after).engines party).call = some call ∧
        call.serverId = serverId ∧ call.groupId = groupId) ↔
      ∃ call, (mesh.engines party).call = some call ∧
        call.serverId = serverId ∧ call.groupId = groupId := by
    rw [put_engines]
    split_ifs with here
    · subst here
      constructor
      · rintro ⟨call, running, server, group⟩
        rw [running, Option.map_some] at same
        obtain ⟨before, found, equal⟩ := Option.map_eq_some_iff.mp same.symm
        exact ⟨before, found, by rw [equal, server], by rw [equal, group]⟩
      · rintro ⟨call, running, server, group⟩
        rw [running, Option.map_some] at same
        obtain ⟨now, found, equal⟩ := Option.map_eq_some_iff.mp same
        exact ⟨now, found, by rw [equal, server], by rw [equal, group]⟩
    · exact Iff.rfl
  have spread (mesh : CallMesh Description Candidate) :
      mesh.Together one other ↔ ∃ serverId groupId,
        (∃ call, (mesh.engines one).call = some call ∧
          call.serverId = serverId ∧ call.groupId = groupId) ∧
        ∃ call, (mesh.engines other).call = some call ∧
          call.serverId = serverId ∧ call.groupId = groupId := by
    constructor
    · rintro ⟨first, second, running, calling, server, group⟩
      exact ⟨_, _, ⟨first, running, rfl, rfl⟩,
        ⟨second, calling, server.symm, group.symm⟩⟩
    · rintro ⟨_, _, ⟨first, running, rfl, rfl⟩, ⟨second, calling, server,
        group⟩⟩
      exact ⟨first, second, running, calling, server.symm, group.symm⟩
  rw [spread, spread]
  simp only [channel]

namespace Orderly

theorem names_joined (orderly : Orderly mesh)
    {device peer : String} {number : ℕ}
    (names : (mesh.engines device).Names number peer) :
    mesh.Joined device ∧ mesh.Joined peer := by
  obtain ⟨link, found, rfl⟩ := names
  obtain ⟨own, joined⟩ := orderly.links device link
    (List.mem_of_getElem? found)
  exact ⟨⟨_, own, rfl⟩, joined⟩

theorem tokens_eq_nil (orderly : Orderly mesh)
    {smaller larger : String}
    (absent : ¬ (mesh.Joined smaller ∧ mesh.Joined larger)) :
    mesh.tokens smaller larger = [] := by
  unfold CallMesh.tokens
  rw [List.append_eq_nil_iff, List.filterMap_eq_nil_iff,
    List.filterMap_eq_nil_iff]
  constructor
  · intro task member
    obtain ⟨device, peer⟩ := orderly.names_joined
      (orderly.elected.tasks task member).2
    apply LinkTask.token_eq_none
    · rintro ⟨rfl, rfl⟩
      exact absent ⟨device, peer⟩
    · rintro ⟨rfl, rfl⟩
      exact absent ⟨peer, device⟩
  · intro signal member
    obtain ⟨sender, target⟩ := orderly.flight signal member
    apply Signal.token_eq_none
    · rintro ⟨rfl, rfl⟩
      exact absent ⟨⟨_, sender, rfl⟩, target⟩
    · rintro ⟨rfl, rfl⟩
      exact absent ⟨target, ⟨_, sender, rfl⟩⟩

theorem side_eq_none (orderly : Orderly mesh)
    {device peer : String} (absent : ¬ mesh.Joined peer) :
    mesh.side device peer = none := by
  cases found : mesh.side device peer with
  | none => rfl
  | some side =>
      obtain ⟨call, link, running, known, stored, -⟩ :=
        Engine.side_eq_some.mp found
      have names := (orderly.elected.calls device call running).2 _ _ known
      exact (absent (orderly.names_joined names).2).elim

section Connecting

variable {device peer : String} {call : RunningCall}

theorem side_connect (orderly : Orderly mesh)
    (running : (mesh.engines device).call = some call)
    (peer one other : String) :
    (mesh.put device ((mesh.engines device).connect call peer)).side one
        other =
      if one = device ∧ other = peer then
        some ((mesh.engines device).links.length, Face.blank)
      else mesh.side one other := by
  rw [CallMesh.side_put]
  by_cases here : one = device
  · subst here
    rw [if_pos rfl, Engine.side_connect running
      (orderly.elected.calls one call running).2]
    simp only [true_and]
    rfl
  · rw [if_neg here, if_neg fun both => here both.1]

theorem connect (orderly : Orderly mesh)
    (running : (mesh.engines device).call = some call)
    (unknown : AList.lookup peer call.peers = none)
    (joined : mesh.Joined peer) :
    Orderly (mesh.put device ((mesh.engines device).connect call peer)) := by
  have own := (orderly.elected.calls device call running).1
  refine ⟨orderly.elected.connect running peer, ?_, ?_, orderly.flight,
    orderly.once, ?_⟩
  · intro other made stored
    rw [CallMesh.put_engines] at stored
    split_ifs at stored with here
    · cases stored
      exact orderly.calls device call running
    · exact orderly.calls other made stored
  · intro other link member
    rw [CallMesh.put_engines] at member
    split_ifs at member with here
    · rcases List.mem_append.mp member with old | new
      · rw [here]
        exact orderly.links device link old
      · rw [List.mem_singleton.mp new]
        refine ⟨?_, joined⟩
        rw [here, ← own]
        exact orderly.calls device call running
    · exact orderly.links other link member
  · intro other made stored target inCall number names
    have before : (mesh.engines target).call ≠ none := by
      rw [CallMesh.put_engines] at inCall
      split_ifs at inCall with here
      · rw [here, running]
        exact nofun
      · exact inCall
    rw [CallMesh.put_engines] at stored names
    split_ifs at stored names with here
    · cases stored
      rw [Mapping.lookup_insert_eq]
      obtain ⟨link, found, same⟩ := names
      rcases Slots.append_cases found with old | ⟨last, new⟩
      · have known := orderly.sole device call running target before number
          ⟨link, old, same⟩
        rw [if_neg, known]
        rintro rfl
        rw [unknown] at known
        cases known
      · subst new
        rw [if_pos same.symm, last]
    · exact orderly.sole other made stored target before number names

end Connecting

theorem disconnect (orderly : Orderly mesh) {device peer : String}
    {call : RunningCall} (running : (mesh.engines device).call = some call)
    (gone : (mesh.engines peer).call = none)
    (elected : Elected (mesh.put device
      ((mesh.engines device).disconnect call peer))) :
    Orderly (mesh.put device ((mesh.engines device).disconnect call peer)) := by
  refine ⟨elected, ?_, ?_, orderly.flight, orderly.once, ?_⟩
  · intro other made stored
    rw [CallMesh.put_engines] at stored
    split_ifs at stored with here
    · cases stored
      exact orderly.calls device call running
    · exact orderly.calls other made stored
  · intro other link member
    rw [CallMesh.put_engines] at member
    split_ifs at member with here
    · rw [here]
      exact orderly.links device link member
    · exact orderly.links other link member
  · intro other made stored target inCall number names
    have before : (mesh.engines target).call ≠ none := by
      rw [CallMesh.put_engines] at inCall
      split_ifs at inCall with here
      · rw [here, running]
        exact nofun
      · exact inCall
    rw [CallMesh.put_engines] at stored names
    split_ifs at stored names with here
    · cases stored
      rw [Mapping.lookup_erase_eq, if_neg]
      · exact orderly.sole device call running target before number names
      · rintro rfl
        exact before gone
    · exact orderly.sole other made stored target before number names

theorem spawn (orderly : Orderly mesh) {task : Option LinkTask}
    (elected : Elected (mesh.spawn task)) : Orderly (mesh.spawn task) :=
  ⟨elected, orderly.calls, orderly.links, orderly.flight, orderly.once,
    orderly.sole⟩

end Orderly

theorem CallMesh.tokens_spawn (task : LinkTask) (smaller larger : String) :
    ((mesh.spawn (some task)).tokens smaller larger).Perm
      ((task.token smaller larger).toList ++ mesh.tokens smaller larger) := by
  unfold tokens spawn
  simp only [Option.toList_some, List.filterMap_append, List.filterMap_cons,
    List.filterMap_nil]
  cases task.token smaller larger with
  | none => simp
  | some token =>
      simp only [Option.toList_some, List.append_assoc]
      exact List.perm_append_comm.trans (by simp [List.perm_append_comm])

theorem CallMesh.tokens_eraseSignal {index : ℕ} {signal : Signal}
    (found : mesh.flight[index]? = some signal) (smaller larger : String) :
    (mesh.tokens smaller larger).Perm
      ((signal.token smaller larger).toList ++
        CallMesh.tokens { mesh with flight := mesh.flight.eraseIdx index }
          smaller larger) := by
  unfold tokens
  refine (List.Perm.append_left _
    (Slots.perm_filterMap_of_found found _)).trans ?_
  rw [← List.append_assoc, ← List.append_assoc]
  exact List.Perm.append_right _ List.perm_append_comm

theorem CallMesh.tokens_eraseTask {index : ℕ} {task : LinkTask}
    (found : mesh.tasks[index]? = some task) (smaller larger : String) :
    (mesh.tokens smaller larger).Perm
      ((task.token smaller larger).toList ++
        CallMesh.tokens { mesh with tasks := mesh.tasks.eraseIdx index }
          smaller larger) := by
  unfold tokens
  refine (List.Perm.append_right _
    (Slots.perm_filterMap_of_found found _)).trans ?_
  rw [List.append_assoc]

theorem Orderly.eraseSignal (orderly : Orderly mesh) (index : ℕ) :
    Orderly { mesh with flight := mesh.flight.eraseIdx index } :=
  ⟨orderly.elected.eraseSignal index, orderly.calls, orderly.links,
    fun signal member => orderly.flight signal
      (List.mem_of_mem_eraseIdx member), orderly.once, orderly.sole⟩

theorem CallMesh.onLink_of_found {device : String} {number : ℕ}
    {old : CallLink Description Candidate}
    (found : (mesh.engines device).links[number]? = some old)
    (change : PeerLink Description Candidate →
      PeerLink Description Candidate) :
    mesh.onLink device number change =
      { mesh.put device { mesh.engines device with
          links := (mesh.engines device).links.set number
            { old with link := change old.link } } with
        flight := mesh.flight ++
          { old with link := change old.link }.posted device
            old.link.sent.length } := by
  unfold onLink
  rw [found]

theorem CallMesh.side_onLink {device : String} {number : ℕ}
    {old : CallLink Description Candidate}
    (found : (mesh.engines device).links[number]? = some old)
    (change : PeerLink Description Candidate →
      PeerLink Description Candidate) (one other : String) :
    (mesh.onLink device number change).side one other =
      if one = device then
        (mesh.side device other).map fun (position, face) =>
          (position, if position = number then (change old.link).face
            else face)
      else mesh.side one other := by
  rw [onLink_of_found found]
  change (mesh.put device _).side one other = _
  rw [side_put]
  split_ifs
  · exact Engine.side_set found other
  · rfl

theorem CallMesh.side_onLink_self {device peer : String} {number : ℕ}
    {old : CallLink Description Candidate}
    (found : (mesh.engines device).links[number]? = some old)
    {face : Face Description}
    (side : mesh.side device peer = some (number, face))
    (change : PeerLink Description Candidate →
      PeerLink Description Candidate) :
    old.link.face = face ∧
      (mesh.onLink device number change).side device peer =
        some (number, (change old.link).face) := by
  constructor
  · obtain ⟨call, link, -, -, stored, rfl⟩ := Engine.side_eq_some.mp side
    rw [found] at stored
    cases stored
    rfl
  · rw [side_onLink found, if_pos rfl, side]
    simp

theorem CallMesh.tokens_onLink {device : String} {number : ℕ}
    {old : CallLink Description Candidate}
    (found : (mesh.engines device).links[number]? = some old)
    (change : PeerLink Description Candidate →
      PeerLink Description Candidate) (smaller larger : String) :
    (mesh.onLink device number change).tokens smaller larger =
      mesh.tokens smaller larger ++
        ({ old with link := change old.link }.posted device
          old.link.sent.length).filterMap (Signal.token smaller larger) := by
  rw [onLink_of_found found]
  unfold tokens
  rw [List.append_assoc, List.filterMap_append]
  rfl

theorem CallMesh.together_onLink {device : String} {number : ℕ}
    (change : PeerLink Description Candidate →
      PeerLink Description Candidate) {one other : String} :
    (mesh.onLink device number change).Together one other ↔
      mesh.Together one other := by
  cases found : (mesh.engines device).links[number]? with
  | none =>
      unfold onLink
      rw [found]
  | some old =>
      rw [onLink_of_found found]
      exact together_put mesh
        { mesh.engines device with
          links := (mesh.engines device).links.set number
            { old with link := change old.link } } rfl

theorem Orderly.onLink (orderly : Orderly mesh) {device : String}
    {number : ℕ} {kinds : String → Prop}
    {change : PeerLink Description Candidate →
      PeerLink Description Candidate}
    (emits : ∀ link, PeerLink.Emits kinds link (change link))
    (elected : Elected (mesh.onLink device number change)) :
    Orderly (mesh.onLink device number change) := by
  cases found : (mesh.engines device).links[number]? with
  | none =>
      have same : mesh.onLink device number change = mesh := by
        unfold CallMesh.onLink
        rw [found]
      rw [same]
      exact orderly
  | some old =>
      rw [CallMesh.onLink_of_found found] at elected ⊢
      have emitted := emits old.link
      have known := orderly.links device old (List.mem_of_getElem? found)
      have call (other : String) :
          ((mesh.put device { mesh.engines device with
            links := (mesh.engines device).links.set number
              { old with link := change old.link } }).engines other).call =
            (mesh.engines other).call := by
        rw [CallMesh.put_engines]
        split_ifs with here
        · rw [here]
        · rfl
      refine ⟨elected, ?_, ?_, ?_, orderly.once, ?_⟩
      · intro other running stored
        exact orderly.calls other running ((call other).symm.trans stored)
      · intro other link member
        rw [CallMesh.put_engines] at member
        split_ifs at member with here
        · subst here
          rcases (Slots.mem_set_of_found found _ link).mp member with
            rfl | rest
          · refine ⟨known.1, ?_⟩
            change mesh.Joined (change old.link).remoteDevice
            rw [emitted.device]
            exact known.2
          · exact orderly.links other link (List.mem_of_mem_eraseIdx rest)
        · exact orderly.links other link member
      · intro signal member
        rcases List.mem_append.mp member with earlier | new
        · exact orderly.flight signal earlier
        · obtain ⟨kind, json, -, rfl⟩ := CallLink.mem_posted emitted new
          exact known
      · intro other running stored peer inCall position names
        refine orderly.sole other running ((call other).symm.trans stored)
          peer (by rwa [← call peer]) position ?_
        rw [CallMesh.put_engines] at names
        split_ifs at names with here
        · subst here
          obtain ⟨link, located, same⟩ := names
          rcases Slots.set_cases found located with ⟨rfl, rfl⟩ | ⟨-, rest⟩
          · exact ⟨old, found, emitted.device.symm.trans same⟩
          · exact ⟨link, rest, same⟩
        · exact names

theorem Orderly.eraseTask (orderly : Orderly mesh) (index : ℕ) :
    Orderly { mesh with tasks := mesh.tasks.eraseIdx index } :=
  ⟨orderly.elected.eraseTask index, orderly.calls, orderly.links,
    orderly.flight, orderly.once, orderly.sole⟩

/-- The channel of a signal between two devices that are together is the one
they are in. -/
theorem Orderly.callIn_of_together (orderly : Orderly mesh) {signal : Signal}
    (member : signal ∈ mesh.flight)
    (together : mesh.Together signal.fromDevice signal.targetDevice) :
    ∃ call, (mesh.engines signal.targetDevice).callIn signal.serverId
      signal.groupId = some call := by
  obtain ⟨sending, call, from_, running, server, group⟩ := together
  have own := (orderly.elected.calls _ sending from_).1
  have same := orderly.once _ (orderly.calls _ sending from_) _
    (orderly.flight signal member).1 own
  refine ⟨call, Engine.callIn_eq_some.mpr ⟨running, ?_, ?_⟩⟩
  · rw [← server]
    exact congrArg ActiveCall.serverId same
  · rw [← group]
    exact congrArg ActiveCall.groupId same

end Meshes

end Voice

end Accord
