import Accord.Client.OutboxFrame

/-! Requests that were withdrawn.  A send or a resend that is under way puts its
entry in after its delivery, without looking what became of the request in
between. -/

namespace Accord

open EventRun

def Outbox.HasRequest (outbox : List OutboxEntry) (peerId : String) : Prop :=
  (peerId, RequestKind.request) ∈ outbox.map OutboxEntry.key

instance (outbox : List OutboxEntry) (peerId : String) :
    Decidable (Outbox.HasRequest outbox peerId) :=
  inferInstanceAs (Decidable (_ ∈ _))

/-- A request can be sent with the code, and it goes to the peer. -/
def CodeText.Names (code : CodeText) (peerId : String) : Prop :=
  ∃ target identity, targetFromCode code = .ok (target, identity) ∧
    target.hostUserId.isNone = false ∧ Contacts.toHex identity = peerId

namespace FriendTask

/-- The rest of a send to the peer, or of a resend that has read its entry. -/
def Puts (peerId : String) : FriendTask → Prop
  | sending code _ => code.Names peerId
  | delivering entry | putting entry
  | redelivering entry | puttingBack entry => entry.peerId = peerId
  | _ => False

def Withdraws (peerId : String) : FriendTask → Prop
  | cancelling other => other = peerId
  | merging _ accepted => peerId ∈ accepted.map (·.peerId)
  | _ => False

end FriendTask

namespace FriendPool

def HasRequest (pool : FriendPool) (peerId : String) : Prop :=
  Outbox.HasRequest pool.shared.outbox peerId

instance (pool : FriendPool) (peerId : String) :
    Decidable (HasRequest pool peerId) :=
  inferInstanceAs (Decidable (Outbox.HasRequest _ _))

/-- The turn takes the request to the peer out of the outbox. -/
structure Removes (peerId : String) (pool : FriendPool) (index : ℕ)
    (task : FriendTask) (input : FriendInput) : Prop where
  found : pool.tasks[index]? = some task
  withdraws : task.Withdraws peerId
  before : HasRequest pool peerId
  after : ¬HasRequest (friendMachine.step pool (.turn index input)) peerId

def StartsNoSend (peerId : String) (_ : FriendPool) : FriendEvent → Prop
  | .start (.send code _) => ¬code.Names peerId
  | _ => True

/-- However the commands go on, there is no request to the peer unless a
further send is started. -/
def StaysWithdrawn (peerId : String) (pool : FriendPool) : Prop :=
  Lasting friendMachine.step (StartsNoSend peerId)
    (fun pool => ¬HasRequest pool peerId) pool

end FriendPool

namespace Outbox

open OutboxEntry

variable {outbox : List OutboxEntry} {peerId : String}

private theorem HasRequest.of_without {other : String} {kind : RequestKind}
    (kept : HasRequest (without other kind outbox) peerId) :
    HasRequest outbox peerId := by
  unfold HasRequest at kept
  rw [without_keys] at kept
  exact (List.mem_filter.mp kept).1

private theorem HasRequest.put_cases {entry : OutboxEntry} {kind : RequestKind}
    (put : HasRequest (without entry.peerId kind outbox ++ [entry]) peerId) :
    HasRequest outbox peerId ∨ entry.key = (peerId, .request) := by
  unfold HasRequest at put
  rw [List.map_append, List.mem_append, List.map_singleton,
    List.mem_singleton] at put
  exact put.imp HasRequest.of_without Eq.symm

private theorem hasRequest_put (entry : OutboxEntry)
    (request : entry.kind = .request)
    (outbox : List OutboxEntry) :
    HasRequest (without entry.peerId .request outbox ++ [entry])
      entry.peerId := by
  refine List.mem_map.mpr ⟨entry, List.mem_append_right _ ?_, ?_⟩
  · exact List.mem_singleton_self entry
  · rw [OutboxEntry.key, request]

end Outbox

namespace FriendTask

variable {friends : Friends} {task : FriendTask} {peerId : String}

private theorem Withdraws.not_puts (withdraws : task.Withdraws peerId) :
    ¬task.Puts peerId := by
  cases task with
  | cancelling | merging => exact id
  | _ => exact withdraws.elim

private theorem revision_absent (proper : task.Proper)
    (others : ¬task.Puts peerId)
    {outbox : List OutboxEntry} (absent : ¬Outbox.HasRequest outbox peerId) :
    ¬Outbox.HasRequest (task.revision outbox).2 peerId := by
  intro put
  cases task with
  | putting entry | puttingBack entry =>
      cases Outbox.HasRequest.put_cases put with
      | inl old => exact absent old
      | inr own => exact others (congrArg Prod.fst own)
  | queueing entry =>
      have kind : entry.kind = .accept := proper
      simp only [revision, Outbox.queueAcceptance] at put
      cases delivered : entry.delivered with
      | true =>
          rw [delivered, if_pos rfl, List.append_nil] at put
          exact absent put.of_without
      | false =>
          rw [delivered, if_neg Bool.false_ne_true] at put
          cases Outbox.HasRequest.put_cases put with
          | inl old => exact absent old
          | inr own => simp [OutboxEntry.key, kind] at own
  | cancelling other => exact absent put.of_without
  | merging deliveredNow accepted =>
      exact absent
        ((Outbox.merge_keys_sublist deliveredNow _ outbox).subset put)
  | _ => exact absent put

private theorem puts_advance {input : FriendInput}
    (puts : (advance friends task input).2.Puts peerId) :
    task.Puts peerId ∨ Outbox.HasRequest friends.outbox peerId := by
  cases task with
  | delivering entry | redelivering entry =>
      have same := congrArg (·.peerId)
        (friends.deliver_fixed input.answer entry)
      exact .inl (same.symm.trans puts)
  | looking other myDisplay =>
      simp only [advance] at puts
      obtain same | ⟨entry, member, own, same⟩ :=
        look_cases (input.outboxFile.read [] friends.outbox) other myDisplay
      · rw [same] at puts
        exact puts.elim
      · rw [same] at puts
        have listed : entry ∈ friends.outbox :=
          input.outboxFile.read_subset _ member
        have peer : (entry.withDisplay myDisplay).peerId = other :=
          congrArg Prod.fst ((entry.withDisplay_key myDisplay).trans own)
        have named : other = peerId := peer.symm.trans puts
        exact .inr (List.mem_map.mpr ⟨entry, listed, named ▸ own⟩)
  | sending code myDisplay =>
      simp only [advance] at puts
      obtain same | ⟨target, identity, named, hosted, same⟩ :=
        send_cases input code myDisplay
      · rw [same] at puts
        exact puts.elim
      · rw [same] at puts
        exact .inl ⟨target, identity, named, hosted, puts⟩
  | retrying todo deliveredNow myDisplay =>
      cases todo with
      | nil =>
          simp only [advance] at puts
          obtain same | ⟨rows, same⟩ := list_cases friends input deliveredNow
          · rw [same] at puts
            exact puts.elim
          · rw [same] at puts
            exact puts.elim
      | cons entry rest =>
          simp only [advance] at puts
          obtain same | same := retry_cases friends input entry rest
            deliveredNow myDisplay
          · rw [same] at puts
            exact puts.elim
          · rw [same] at puts
            exact puts.elim
  | consuming rows policy deliveredNow accepted =>
      cases rows <;> exact puts.elim
  | responding id code answer myDisplay =>
      simp only [advance] at puts
      obtain ⟨contacts, next, same, kinds⟩ :=
        respond_cases friends input id code answer myDisplay
      rw [same] at puts
      obtain rfl | rfl | rfl := kinds <;> exact puts.elim
  | accepting code myDisplay =>
      simp only [advance] at puts
      obtain same | ⟨target, identity, _, same⟩ :=
        accept_cases friends input code myDisplay
      · rw [same] at puts
        exact puts.elim
      · rw [same] at puts
        exact puts.elim
  | _ => exact puts.elim

private theorem puts_enter {command : FriendCommand}
    (puts : (enter command).Puts peerId) :
    ∃ code myDisplay, command = .send code myDisplay ∧ code.Names peerId := by
  cases command with
  | send code myDisplay => exact ⟨code, myDisplay, rfl, puts⟩
  | _ => exact puts.elim

end FriendTask

namespace FriendPool

variable {pool : FriendPool} {peerId : String}

abbrev Clear (peerId : String) (pool : FriendPool) : Prop :=
  pool.Suits (fun friends => ¬Outbox.HasRequest friends.outbox peerId)
    fun _ task => task.Proper ∧ ¬task.Puts peerId

theorem Clear.step (clear : Clear peerId pool) {event : FriendEvent}
    (sendless : StartsNoSend peerId pool event) :
    Clear peerId (friendMachine.step pool event) := by
  refine Tasks.Pool.Suits.step clear ?_ ?_
  · intro command started
    refine ⟨FriendTask.proper_enter command, fun puts => ?_⟩
    obtain ⟨code, myDisplay, rfl, names⟩ := FriendTask.puts_enter puts
    rw [started] at sendless
    exact sendless names
  · intro index task input _ _ good
    constructor
    · change ¬Outbox.HasRequest (FriendTask.advance _ _ _).1.outbox peerId
      rw [FriendTask.advance_outbox]
      exact input.outboxFile.rewrite_keeps (¬Outbox.HasRequest · peerId)
        List.not_mem_nil
        (fun _ => FriendTask.revision_absent good.1 good.2) clear.shared
    · refine ⟨FriendTask.proper_advance good.1 _ _, fun puts => ?_⟩
      exact (FriendTask.puts_advance puts).elim good.2 clear.shared
    · exact fun _ other => other

private theorem Clear.staysWithdrawn (clear : Clear peerId pool) :
    StaysWithdrawn peerId pool := by
  have absent : ∀ pool : FriendPool, Clear peerId pool →
      ¬HasRequest pool peerId := fun _ holds => holds.shared
  refine lasting_of_step absent ?_ clear
  exact fun _ _ holds sendless => Clear.step holds sendless

theorem StaysWithdrawn.turned (stays : StaysWithdrawn peerId pool)
    {index : ℕ} {task : FriendTask}
    (found : pool.tasks[index]? = some task) (input : FriendInput) :
    StaysWithdrawn peerId (friendMachine.turned pool index task input) := by
  rw [← Tasks.Machine.step_turn found]
  exact Lasting.later stays trivial

theorem turned_found {index : ℕ} {task : FriendTask}
    (found : pool.tasks[index]? = some task) (input : FriendInput) :
    (friendMachine.turned pool index task input).tasks[index]? =
      some (FriendTask.advance pool.shared task input).2 :=
  Tasks.Machine.turned_found found input

private theorem put_returns {index : ℕ} {task : FriendTask}
    {entry : OutboxEntry}
    (found : pool.tasks[index]? = some task)
    (puts : task.revision = Outbox.replaceRequest entry)
    (request : entry.kind = .request) :
    ¬StaysWithdrawn entry.peerId pool := by
  intro stays
  refine (stays.turned found {}).now ?_
  change Outbox.HasRequest (FriendTask.advance _ _ _).1.outbox _
  rw [FriendTask.advance_outbox, puts]
  exact Outbox.hasRequest_put entry request _

/-- The delivery before it does not stand in its way, however it ends. -/
private theorem delivery_returns {index : ℕ} {task : FriendTask}
    {entry : OutboxEntry} (found : pool.tasks[index]? = some task)
    (task_eq : task = .delivering entry ∨ task = .redelivering entry)
    (request : entry.kind = .request) :
    ¬StaysWithdrawn entry.peerId pool := by
  intro stays
  have fixed := pool.shared.deliver_fixed .failed entry
  have samePeer : (pool.shared.deliver .failed entry).2.1.peerId =
      entry.peerId := congrArg (·.peerId) fixed
  have sameKind : (pool.shared.deliver .failed entry).2.1.kind = .request :=
    (congrArg (·.kind) fixed).trans request
  have later := stays.turned found {}
  have placed := turned_found found {}
  rw [← samePeer] at later
  obtain rfl | rfl := task_eq
  · exact put_returns placed rfl sameKind later
  · exact put_returns placed rfl sameKind later

private theorem puts_returns {task : FriendTask} (member : task ∈ pool.tasks)
    (proper : task.Proper) (puts : task.Puts peerId) :
    ¬StaysWithdrawn peerId pool := by
  obtain ⟨index, found⟩ := List.mem_iff_getElem?.mp member
  cases task with
  | putting entry | puttingBack entry =>
      obtain rfl : entry.peerId = peerId := puts
      exact put_returns found rfl proper
  | delivering entry =>
      obtain rfl : entry.peerId = peerId := puts
      exact delivery_returns found (.inl rfl) proper
  | redelivering entry =>
      obtain rfl : entry.peerId = peerId := puts
      exact delivery_returns found (.inr rfl) proper
  | sending code myDisplay =>
      obtain ⟨target, identity, named, hosted, rfl⟩ := puts
      intro stays
      have placed := turned_found found {}
      simp only [FriendTask.advance, FriendTask.send, named, hosted,
        Bool.false_eq_true, if_false] at placed
      exact delivery_returns placed (.inl rfl) rfl (stays.turned found {})
  | _ => exact puts.elim

private theorem proper_run (friends : Friends) (events : List FriendEvent) :
    ∀ task ∈ (run friendMachine.step ⟨friends, []⟩ events).tasks,
      task.Proper := by
  have always : Always friendMachine.step
      (Tasks.Pool.Suits (fun _ => True) fun _ task => task.Proper)
      ⟨friends, []⟩ events := by
    refine always_of_kept ?_ ?_ events
    · intro pool event holds
      refine Tasks.Pool.Suits.step holds
        (fun command _ => FriendTask.proper_enter command) ?_
      intro index task input _ _ proper
      exact ⟨trivial, FriendTask.proper_advance proper _ _,
        fun _ other => other⟩
    · exact ⟨trivial, fun _ member => absurd member List.not_mem_nil⟩
  exact always.last.tasks

private theorem removes_iff (proper : ∀ task ∈ pool.tasks, task.Proper)
    {index : ℕ}
    {task : FriendTask} {input : FriendInput}
    (removes : Removes peerId pool index task input) :
    StaysWithdrawn peerId (friendMachine.step pool (.turn index input)) ↔
      ∀ other ∈ pool.tasks, ¬other.Puts peerId := by
  have found := removes.found
  have absent := removes.after
  rw [Tasks.Machine.step_turn found] at absent ⊢
  have turned : ∀ other,
      other ∈ (friendMachine.turned pool index task input).tasks ↔
        other = (FriendTask.advance pool.shared task input).2 ∨
          other ∈ pool.tasks.eraseIdx index :=
    Slots.mem_set_of_found found _
  have idle : ¬(FriendTask.advance pool.shared task input).2.Puts peerId := by
    cases task with
    | cancelling | merging => exact id
    | _ => exact removes.withdraws.elim
  constructor
  · intro stays other member puts
    cases (Slots.mem_iff_of_found found other).mp member with
    | inl own => exact removes.withdraws.not_puts (own ▸ puts)
    | inr rest =>
        exact puts_returns ((turned other).mpr (.inr rest))
          (proper other member) puts stays
  · intro none
    refine Clear.staysWithdrawn ⟨absent, fun other member => ?_⟩
    cases (turned other).mp member with
    | inl own =>
        rw [own]
        have own := proper task (List.mem_of_getElem? found)
        exact ⟨FriendTask.proper_advance own _ _, idle⟩
    | inr rest =>
        have kept := List.mem_of_mem_eraseIdx rest
        exact ⟨proper other kept, none other kept⟩

/-- A request that was taken out comes back exactly when a send or a resend to
its peer was under way. -/
theorem staysWithdrawn_iff (friends : Friends) (events : List FriendEvent)
    {peerId : String} {index : ℕ} {task : FriendTask} {input : FriendInput}
    (removes : Removes peerId (run friendMachine.step ⟨friends, []⟩ events)
      index task input) :
    StaysWithdrawn peerId (run friendMachine.step ⟨friends, []⟩
        (events ++ [.turn index input])) ↔
      ∀ other ∈ (run friendMachine.step ⟨friends, []⟩ events).tasks,
        ¬other.Puts peerId := by
  rw [run_append]
  exact removes_iff (proper_run friends events) removes

end FriendPool

theorem cancelled_stays :
    FriendPool.StaysWithdrawn peerKey
      (run friendMachine.step ⟨{ outbox := [peerRequest] }, []⟩
        ([.start (.cancel peerKey)] ++ [.turn 0 {}])) := by
  have removes : FriendPool.Removes peerKey
      (run friendMachine.step ⟨{ outbox := [peerRequest] }, []⟩
        [.start (.cancel peerKey)]) 0 (.cancelling peerKey) {} :=
    ⟨rfl, rfl, by decide +kernel, by decide +kernel⟩
  refine (FriendPool.staysWithdrawn_iff _ _ removes).mpr ?_
  intro other member
  rw [List.mem_singleton.mp member]
  exact id

/-- The resend has read the request when it is cancelled. -/
theorem resend_undoes_cancel :
    FriendPool.Removes peerKey
        (run friendMachine.step ⟨{ outbox := [peerRequest] }, []⟩
          [.start (.resend peerKey "Ann"), .turn 0 {},
            .start (.cancel peerKey)])
        1 (.cancelling peerKey) {} ∧
      ¬FriendPool.StaysWithdrawn peerKey
        (run friendMachine.step ⟨{ outbox := [peerRequest] }, []⟩
          [.start (.resend peerKey "Ann"), .turn 0 {},
            .start (.cancel peerKey), .turn 1 {}]) := by
  refine ⟨⟨rfl, rfl, by decide +kernel, by decide +kernel⟩, ?_⟩
  intro stays
  refine (stays [.turn 0 {}, .turn 0 {}] ⟨trivial, trivial, trivial⟩).last ?_
  decide +kernel

end Accord
