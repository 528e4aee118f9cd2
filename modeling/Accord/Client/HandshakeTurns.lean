import Accord.Client.HandshakeEvents

/-! The tasks of the links.  A task that is part of a handshake takes it to its
next stage, and no other task touches it. -/

namespace Accord

namespace Voice

open PeerLink (Face)

variable {Description Candidate : Type}

section Meshes

variable {codec : SignalCodec Description Candidate}
  {mesh : CallMesh Description Candidate}

namespace Progresses

theorem quiet (progresses : Progresses codec mesh) {device : String}
    {number : ℕ} {kinds : String → Prop}
    {change : PeerLink Description Candidate →
      PeerLink Description Candidate}
    (emits : ∀ link, PeerLink.Emits kinds link (change link))
    (elected : Elected (mesh.onLink device number change))
    (face : ∀ link, (change link).face = link.face)
    (silent : ∀ kind, kinds kind → kind = "ice") :
    Progresses codec (mesh.onLink device number change) := by
  refine ⟨progresses.toOrderly.onLink emits elected, ?_⟩
  intro smaller larger order together
  have handshake := progresses.pairs smaller larger order
    ((CallMesh.together_onLink change).mp together)
  cases found : (mesh.engines device).links[number]? with
  | none =>
      unfold CallMesh.onLink
      rw [found]
      exact handshake
  | some old =>
      have side (one other : String) :
          (mesh.onLink device number change).side one other =
            mesh.side one other := by
        rw [CallMesh.side_onLink found]
        split_ifs with here
        · subst here
          cases known : mesh.side one other with
          | none => rfl
          | some pair =>
              obtain ⟨position, seen⟩ := pair
              simp only [Option.map_some, Option.some.injEq, Prod.mk.injEq,
                true_and]
              split_ifs with same
              · subst same
                obtain ⟨call, link, -, -, stored, rfl⟩ :=
                  Engine.side_eq_some.mp known
                rw [found] at stored
                cases stored
                exact face old.link
              · rfl
        · rfl
      have nothing : ({ old with link := change old.link }.posted device
          old.link.sent.length).filterMap (Signal.token smaller larger) =
            [] := by
        apply List.filterMap_eq_nil_iff.mpr
        intro signal member
        obtain ⟨kind, json, allowed, rfl⟩ :=
          CallLink.mem_posted (emits old.link) member
        rw [silent kind allowed]
        rfl
      rw [side, side, CallMesh.tokens_onLink found, nothing, List.append_nil]
      exact handshake

theorem candidate (progresses : Progresses codec mesh) (device : String)
    (number : ℕ) (json : String) :
    Progresses codec (mesh.onLink device number (·.trickle json)) := by
  have emits (link : PeerLink Description Candidate) :
      PeerLink.Emits (· = "ice") link (link.trickle json) :=
    PeerLink.emits_trickle json
  refine progresses.quiet emits ?_ (fun link => PeerLink.face_trickle)
    fun kind ice => ice
  exact progresses.elected.onLink _ emits (fun kind ice => .inr (.inr ice))
    nofun nofun

private theorem pair_elsewhere (elected : Elected mesh)
    {device peer : String} {number : ℕ} {kinds : String → Prop}
    {change : PeerLink Description Candidate →
      PeerLink Description Candidate}
    (emits : ∀ link, PeerLink.Emits kinds link (change link))
    (names : (mesh.engines device).Names number peer)
    {smaller larger : String}
    (handshake : Handshake codec.readDescription (mesh.side smaller larger)
      (mesh.side larger smaller) (mesh.tokens smaller larger))
    (one : ¬ (device = smaller ∧ peer = larger))
    (other : ¬ (device = larger ∧ peer = smaller)) :
    Handshake codec.readDescription
      ((mesh.onLink device number change).side smaller larger)
      ((mesh.onLink device number change).side larger smaller)
      ((mesh.onLink device number change).tokens smaller larger) := by
  obtain ⟨old, found, rfl⟩ := names
  have side (party target : String)
      (different : ¬ (device = party ∧ old.link.remoteDevice = target)) :
      (mesh.onLink device number change).side party target =
        mesh.side party target := by
    rw [CallMesh.side_onLink found]
    split_ifs with here
    · subst here
      cases known : mesh.side party target with
      | none => rfl
      | some pair =>
          obtain ⟨position, seen⟩ := pair
          have apart : position ≠ number := by
            rintro rfl
            obtain ⟨call, -, running, stored, -, -⟩ :=
              Engine.side_eq_some.mp known
            have names := (elected.calls party call running).2
              target position stored
            exact different ⟨rfl, names.remoteDevice found⟩
          simp only [Option.map_some, if_neg apart]
    · rfl
  have nothing : ({ old with link := change old.link }.posted device
      old.link.sent.length).filterMap (Signal.token smaller larger) = [] := by
    apply List.filterMap_eq_nil_iff.mpr
    intro signal member
    obtain ⟨kind, json, -, rfl⟩ :=
      CallLink.mem_posted (emits old.link) member
    exact Signal.token_eq_none one other
  rw [side _ _ one, side _ _ other, CallMesh.tokens_onLink found, nothing,
    List.append_nil]
  exact handshake

private theorem posted_eq {old : CallLink Description Candidate}
    {after : PeerLink Description Candidate} {device kind json : String}
    (sent : after.sent = old.link.sent ++
      [(old.link.remoteDevice, kind, json)]) :
    { old with link := after }.posted device old.link.sent.length =
      [⟨old.serverId, old.groupId, device, old.link.remoteDevice,
        kindCode kind, json⟩] := by
  unfold CallLink.posted
  simp only [sent, List.drop_left, List.map_cons, List.map_nil]

section Turns

variable {device peer : String} {number : ℕ}
  {answer : StackAnswer Description} {json : String}

private theorem pair_sent {old : CallLink Description Candidate}
    (found : (mesh.engines device).links[number]? = some old)
    {job : LinkJob} {kind : String} {face : Face Description}
    (different : device ≠ peer) (target : old.link.remoteDevice = peer)
    (side : mesh.side device peer = some (number, face))
    (said : (job.run codec answer old.link).messages kind =
      old.link.messages kind ++ [json]) (smaller larger : String) :
    (mesh.onLink device number (job.run codec answer ·)).side device peer =
        some (number, (job.run codec answer old.link).face) ∧
      (mesh.onLink device number (job.run codec answer ·)).side peer device =
        mesh.side peer device ∧
      (mesh.onLink device number (job.run codec answer ·)).tokens smaller
          larger =
        mesh.tokens smaller larger ++ (Signal.token smaller larger
          ⟨old.serverId, old.groupId, device, peer, kindCode kind,
            json⟩).toList := by
  refine ⟨(CallMesh.side_onLink_self found side _).2, ?_, ?_⟩
  · rw [CallMesh.side_onLink found, if_neg different.symm]
  · have sent := (job.emits_run codec answer old.link).sent_of_messages said
    rw [CallMesh.tokens_onLink found, posted_eq sent, target]
    cases token : Signal.token smaller larger ⟨old.serverId, old.groupId,
      device, peer, kindCode kind, json⟩ <;> simp [token]

theorem offered (names : (mesh.engines device).Names number peer)
    (order : device < peer) (works : PeerLink.StackWorks codec answer json)
    (side : mesh.side device peer = some (number, Face.blank))
    (waits : Waits (mesh.side peer device))
    (tokens : mesh.tokens device peer = []) :
    Handshake codec.readDescription
      ((mesh.onLink device number
        (LinkJob.offering.run codec answer ·)).side device peer)
      ((mesh.onLink device number
        (LinkJob.offering.run codec answer ·)).side peer device)
      ((mesh.onLink device number
        (LinkJob.offering.run codec answer ·)).tokens device peer) := by
  obtain ⟨old, found, target⟩ := names
  have seen := (CallMesh.side_onLink_self found side id).1
  have face : (LinkJob.offering.run codec answer old.link).face =
      ⟨[json], [], none⟩ := by
    refine (PeerLink.face_startOffer works).trans ?_
    rw [seen]
    rfl
  have said : (LinkJob.offering.run codec answer old.link).messages "offer" =
      old.link.messages "offer" ++ [json] :=
    congrArg PeerLink.Face.offers (PeerLink.face_startOffer works)
  have different : device ≠ peer := by
    rintro rfl
    exact String.lt_irrefl _ order
  obtain ⟨own, other, moved⟩ :=
    pair_sent found different target side said device peer
  obtain ⟨description, -, -, readable⟩ := works.written
  rw [own, other, moved, tokens, face]
  have token : Signal.token device peer ⟨old.serverId, old.groupId, device,
      peer, kindCode "offer", json⟩ = some (.offer json) :=
    if_pos ⟨rfl, rfl, rfl⟩
  rw [token]
  exact .offered waits readable

theorem answered {offer : String} {description : Description} {other : ℕ}
    (names : (mesh.engines device).Names number peer)
    (order : peer < device) (works : PeerLink.StackWorks codec answer json)
    (side : mesh.side device peer = some (number, Face.blank))
    (waiting : mesh.side peer device = some (other, ⟨[offer], [], none⟩))
    (readable : codec.readDescription offer = .ok description)
    (tokens : mesh.tokens peer device = []) :
    Handshake codec.readDescription
      ((mesh.onLink device number
        ((LinkJob.handling "offer" offer).run codec answer ·)).side peer
          device)
      ((mesh.onLink device number
        ((LinkJob.handling "offer" offer).run codec answer ·)).side device
          peer)
      ((mesh.onLink device number
        ((LinkJob.handling "offer" offer).run codec answer ·)).tokens peer
          device) := by
  obtain ⟨old, found, target⟩ := names
  have seen := (CallMesh.side_onLink_self found side id).1
  have face : ((LinkJob.handling "offer" offer).run codec answer
      old.link).face = ⟨[], [json], some description⟩ := by
    refine (PeerLink.face_offer works readable).trans ?_
    rw [seen]
    rfl
  have said : ((LinkJob.handling "offer" offer).run codec answer
      old.link).messages "answer" = old.link.messages "answer" ++ [json] :=
    congrArg PeerLink.Face.answers (PeerLink.face_offer works readable)
  have different : device ≠ peer := by
    rintro rfl
    exact String.lt_irrefl _ order
  obtain ⟨own, same, moved⟩ :=
    pair_sent found different target side said peer device
  obtain ⟨reply, -, -, returned⟩ := works.written
  rw [own, same, moved, tokens, face, waiting]
  have token : Signal.token peer device ⟨old.serverId, old.groupId, device,
      peer, kindCode "answer", json⟩ = some (.answer json) :=
    (if_neg fun offered => absurd
      (show kindText (kindCode "answer") = "offer" from offered.1)
      (by decide)).trans (if_pos ⟨rfl, rfl, rfl⟩)
  rw [token]
  exact .answered readable returned

theorem finished {offer : String} {description reply : Description}
    {other : ℕ} (names : (mesh.engines device).Names number peer)
    (order : device < peer) (applied : answer.applied = .ok ())
    (side : mesh.side device peer = some (number, ⟨[offer], [], none⟩))
    (answering : mesh.side peer device =
      some (other, ⟨[], [json], some description⟩))
    (readable : codec.readDescription offer = .ok description)
    (returned : codec.readDescription json = .ok reply)
    (tokens : mesh.tokens device peer = []) :
    Handshake codec.readDescription
      ((mesh.onLink device number
        ((LinkJob.handling "answer" json).run codec answer ·)).side device
          peer)
      ((mesh.onLink device number
        ((LinkJob.handling "answer" json).run codec answer ·)).side peer
          device)
      ((mesh.onLink device number
        ((LinkJob.handling "answer" json).run codec answer ·)).tokens device
          peer) := by
  obtain ⟨old, found, target⟩ := names
  obtain ⟨seen, own⟩ := CallMesh.side_onLink_self found side
    ((LinkJob.handling "answer" json).run codec answer ·)
  have face : ((LinkJob.handling "answer" json).run codec answer
      old.link).face = ⟨[offer], [], some reply⟩ := by
    refine (PeerLink.face_answer applied returned).trans ?_
    rw [seen]
  have silent : ((LinkJob.handling "answer" json).run codec answer
      old.link).sent = old.link.sent := by
    rcases ((LinkJob.handling "answer" json).emits_run codec answer
      old.link).sent with same | ⟨kind, text, allowed, -⟩
    · exact same
    · exact absurd allowed.1 (by decide)
  have different : peer ≠ device := by
    rintro rfl
    exact String.lt_irrefl _ order
  have nothing : { old with
      link := ((LinkJob.handling "answer" json).run codec answer
        old.link) }.posted device old.link.sent.length = [] := by
    simp [CallLink.posted, silent]
  rw [own, CallMesh.side_onLink found, if_neg different,
    CallMesh.tokens_onLink found, nothing, tokens, face, answering]
  exact .done readable returned

end Turns

private theorem turn_other (progresses : Progresses codec mesh) {index : ℕ}
    {task : LinkTask} (found : mesh.tasks[index]? = some task)
    (answer : StackAnswer Description) {kind payload : String}
    (job : task.job = .handling kind payload) (offer : kind ≠ "offer")
    (answered : kind ≠ "answer") :
    Progresses codec
      (CallMesh.onLink { mesh with tasks := mesh.tasks.eraseIdx index }
        task.device task.number (task.job.run codec answer ·)) := by
  have elected := progresses.elected.turn codec found answer
  have erased : Progresses codec
      { mesh with tasks := mesh.tasks.eraseIdx index } := by
    refine ⟨progresses.toOrderly.eraseTask index, ?_⟩
    intro smaller larger order together
    have tokens := CallMesh.tokens_eraseTask found smaller larger
    have none : task.token smaller larger = none := by
      unfold LinkTask.token
      rw [job]
      simp only [offer, answered, false_and, if_false]
    rw [none] at tokens
    exact (progresses.pairs smaller larger order together).perm tokens
  refine erased.quiet (task.job.emits_run codec answer) elected ?_ ?_
  · intro link
    rw [job]
    exact PeerLink.face_other offer answered
  · intro sent allowed
    rw [job] at allowed
    exact (offer allowed.1).elim

section Turn

variable {index : ℕ} {task : LinkTask}
  (found : mesh.tasks[index]? = some task) {answer : StackAnswer Description}
  {json : String} (works : PeerLink.StackWorks codec answer json)

include found works

private theorem turn_smaller (progresses : Progresses codec mesh)
    (order : task.device < task.peer)
    (together : mesh.Together task.device task.peer)
    (part : ∀ kind payload, task.job = .handling kind payload →
      kind = "offer" ∨ kind = "answer") :
    Handshake codec.readDescription
      (CallMesh.side (CallMesh.onLink
        { mesh with tasks := mesh.tasks.eraseIdx index } task.device
        task.number (task.job.run codec answer ·)) task.device task.peer)
      (CallMesh.side (CallMesh.onLink
        { mesh with tasks := mesh.tasks.eraseIdx index } task.device
        task.number (task.job.run codec answer ·)) task.peer task.device)
      (CallMesh.tokens (CallMesh.onLink
        { mesh with tasks := mesh.tasks.eraseIdx index } task.device
        task.number (task.job.run codec answer ·)) task.device task.peer) := by
  obtain ⟨directed, names⟩ :=
    progresses.elected.tasks task (List.mem_of_getElem? found)
  have handshake := progresses.pairs _ _ order together
  have tokens := CallMesh.tokens_eraseTask found task.device task.peer
  unfold LinkTask.Directed at directed
  cases job : task.job with
  | offering =>
      have token : task.token task.device task.peer =
          some (.offering task.number) := by
        simp [LinkTask.token, job]
      rw [token] at tokens
      have only : CallMesh.tokens
          { mesh with tasks := mesh.tasks.eraseIdx index }
          task.device task.peer = [] := handshake.only tokens
      rw [only] at tokens
      obtain ⟨side, waits⟩ := (handshake.perm tokens).offering_inv
      exact offered names order works side waits only
  | handling kind payload =>
      rw [job] at directed
      have answer : kind = "answer" := by
        refine (part kind payload job).resolve_left fun offer => ?_
        exact String.lt_asymm order (directed.1 offer)
      subst answer
      have token : task.token task.device task.peer =
          some (.returning task.number payload) := by
        simp [LinkTask.token, job]
      rw [token] at tokens
      have only : CallMesh.tokens
          { mesh with tasks := mesh.tasks.eraseIdx index }
          task.device task.peer = [] := handshake.only tokens
      rw [only] at tokens
      obtain ⟨offer, other, description, reply, side, answering, readable,
        returned⟩ := (handshake.perm tokens).returning_inv
      exact finished names order works.applied side answering readable
        returned only

private theorem turn_larger (progresses : Progresses codec mesh)
    (order : task.peer < task.device)
    (together : mesh.Together task.peer task.device)
    (part : ∀ kind payload, task.job = .handling kind payload →
      kind = "offer" ∨ kind = "answer") :
    Handshake codec.readDescription
      (CallMesh.side (CallMesh.onLink
        { mesh with tasks := mesh.tasks.eraseIdx index } task.device
        task.number (task.job.run codec answer ·)) task.peer task.device)
      (CallMesh.side (CallMesh.onLink
        { mesh with tasks := mesh.tasks.eraseIdx index } task.device
        task.number (task.job.run codec answer ·)) task.device task.peer)
      (CallMesh.tokens (CallMesh.onLink
        { mesh with tasks := mesh.tasks.eraseIdx index } task.device
        task.number (task.job.run codec answer ·)) task.peer task.device) := by
  obtain ⟨directed, names⟩ :=
    progresses.elected.tasks task (List.mem_of_getElem? found)
  have handshake := progresses.pairs _ _ order together
  have tokens := CallMesh.tokens_eraseTask found task.peer task.device
  unfold LinkTask.Directed at directed
  cases job : task.job with
  | offering =>
      rw [job] at directed
      exact (String.lt_asymm order directed).elim
  | handling kind payload =>
      rw [job] at directed
      have offer : kind = "offer" := by
        refine (part kind payload job).resolve_right fun answer => ?_
        exact String.lt_asymm order (directed.2 answer)
      subst offer
      have token : task.token task.peer task.device =
          some (.taking task.number payload) := by
        simp [LinkTask.token, job]
      rw [token] at tokens
      have only : CallMesh.tokens
          { mesh with tasks := mesh.tasks.eraseIdx index }
          task.peer task.device = [] := handshake.only tokens
      rw [only] at tokens
      obtain ⟨side, number, description, waiting, readable⟩ :=
        (handshake.perm tokens).taking_inv
      exact answered names order works side waiting readable only

end Turn

theorem turn (progresses : Progresses codec mesh) {index : ℕ}
    {task : LinkTask} (found : mesh.tasks[index]? = some task)
    {answer : StackAnswer Description}
    (works : mesh.Together task.device task.peer →
      ∃ json, PeerLink.StackWorks codec answer json) :
    Progresses codec
      (CallMesh.onLink { mesh with tasks := mesh.tasks.eraseIdx index }
        task.device task.number (task.job.run codec answer ·)) := by
  by_cases part : ∀ kind payload, task.job = .handling kind payload →
      kind = "offer" ∨ kind = "answer"
  · have names :=
      (progresses.elected.tasks task (List.mem_of_getElem? found)).2
    have elected := progresses.elected.turn codec found answer
    have orderly := progresses.toOrderly.eraseTask index
    have emits (link : PeerLink Description Candidate) :=
      task.job.emits_run codec answer link
    refine ⟨orderly.onLink emits elected, ?_⟩
    intro smaller larger order together
    rw [CallMesh.together_onLink] at together
    by_cases one : task.device = smaller ∧ task.peer = larger
    · obtain ⟨rfl, rfl⟩ := one
      obtain ⟨json, working⟩ := works together
      exact turn_smaller found working progresses order together part
    · by_cases other : task.device = larger ∧ task.peer = smaller
      · obtain ⟨rfl, rfl⟩ := other
        obtain ⟨json, working⟩ := works together.symm
        exact turn_larger found working progresses order together part
      · have tokens := CallMesh.tokens_eraseTask found smaller larger
        rw [LinkTask.token_eq_none one other] at tokens
        exact pair_elsewhere orderly.elected emits names
          ((progresses.pairs smaller larger order together).perm tokens)
          one other
  · push Not at part
    obtain ⟨kind, payload, job, offer, answered⟩ := part
    exact progresses.turn_other found answer job offer answered

end Progresses

end Meshes

end Voice

end Accord
