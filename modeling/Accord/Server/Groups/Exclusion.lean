import Accord.Server.Groups.Joins

/-! Whether a ban keeps its target out of the public channels.  A membership
that is added while a ban is under way has to be one the ban still leaves. -/

namespace Accord

namespace Store

/-- Nobody has joined or left a group, and no ban was recorded. -/
structure SameStanding (before after : Store) : Prop where
  groups : after.groups = before.groups
  members : after.groupMembers = before.groupMembers
  bans : after.bans = before.bans

theorem SameStanding.refl (store : Store) : store.SameStanding store :=
  ⟨rfl, rfl, rfl⟩

private theorem isBanned_banUser (store : Store) (userId bannedBy : Uuid)
    (reason : String) {other : Uuid} (different : other ≠ userId) :
    (store.banUser userId bannedBy reason).isBanned other =
      store.isBanned other := by
  simp only [banUser]
  split
  · simp only [isBanned, List.any_map]
    congr 1
    funext ban
    simp only [Function.comp_apply]
    split <;> rfl
  · simp [isBanned, Ne.symm different]

def wouldJoin (store : Store) (groupId userId : Uuid) : Bool :=
  store.kindOf groupId == some .pub && !store.isMember groupId userId &&
    store.referencesHold (store.hasGroup groupId && store.hasUser userId)

end Store

namespace JoinTask

/-- A ban of the user that has listed the group and not yet left it. -/
def leaves (groupId userId : Uuid) : JoinTask → Bool
  | .banRemoving _ target _ groups =>
      target == userId && groups.contains groupId
  | _ => false

/-- A ban of the user that has listed its groups without this one, or has left
it already. -/
def misses (groupId userId : Uuid) : JoinTask → Bool
  | .banRemoving _ target _ groups =>
      target == userId && !groups.contains groupId
  | _ => false

def isFinished : JoinTask → Bool
  | .finished => true
  | _ => false

end JoinTask

namespace Joins

/-- Once all calls are completed, no banned user is in a public channel. -/
def BannedOut (pool : Joins) : Prop :=
  (∀ task ∈ pool.tasks, task.isFinished = true) →
    ∀ groupId userId, pool.shared.isBanned userId = true →
      pool.shared.kindOf groupId = some .pub →
      pool.shared.isMember groupId userId = false

/-- Every ban of the user under way will leave the group, and if the user is
banned already there is one. -/
structure Covered (pool : Joins) (groupId userId : Uuid) : Prop where
  banned : pool.shared.isBanned userId = true →
    ∃ task ∈ pool.tasks, task.leaves groupId userId = true
  listed : ∀ task ∈ pool.tasks, task.misses groupId userId = false

/-- A member is added to a public channel only if every ban that concerns them
still leaves that channel, and a channel is created under an id that is not in
use. -/
def Permits (pool : Joins) (mint : AuthSvc.Mint) : JoinTask → Prop
  | .joining groupId userId _ _ =>
      pool.shared.wouldJoin groupId userId = true →
        pool.Covered groupId userId
  | .createInserting _ _ =>
      ∀ row ∈ pool.shared.groupMembers, row.groupId ≠ mint.id
  | _ => True

def Lawful (pool : Joins) : JoinEvent → Prop
  | .start _ => True
  | .turn index mint => ∀ task ∈ pool.tasks[index]?, pool.Permits mint task

instance (pool : Joins) (groupId userId : Uuid) :
    Decidable (pool.Covered groupId userId) :=
  decidable_of_iff
    ((pool.shared.isBanned userId = true →
        ∃ task ∈ pool.tasks, task.leaves groupId userId = true) ∧
      ∀ task ∈ pool.tasks, task.misses groupId userId = false)
    ⟨fun ⟨banned, listed⟩ => ⟨banned, listed⟩,
      fun covered => ⟨covered.banned, covered.listed⟩⟩

instance (pool : Joins) (mint : AuthSvc.Mint) (task : JoinTask) :
    Decidable (pool.Permits mint task) :=
  match task with
  | .joining groupId userId _ _ =>
      inferInstanceAs (Decidable
        (pool.shared.wouldJoin groupId userId = true →
          pool.Covered groupId userId))
  | .createInserting _ _ =>
      inferInstanceAs (Decidable
        (∀ row ∈ pool.shared.groupMembers, row.groupId ≠ mint.id))
  | .banOpening .. | .banListing .. | .banRemoving .. | .addOpening ..
  | .addAsking .. | .partOpening .. | .partFinding .. | .partAsking ..
  | .sessionOpening .. | .sessionFinding .. | .sessionCreating ..
  | .sessionStoring .. | .createOpening .. | .finished => .isTrue trivial

instance (pool : Joins) (event : JoinEvent) : Decidable (pool.Lawful event) :=
  match event with
  | .start _ => .isTrue trivial
  | .turn index mint =>
      inferInstanceAs (Decidable
        (∀ task ∈ pool.tasks[index]?, pool.Permits mint task))

/-- The memberships of public channels that a ban concerns are on their way
out. -/
def Excluded (pool : Joins) : Prop :=
  ∀ groupId userId, pool.shared.kindOf groupId = some .pub →
    pool.shared.isMember groupId userId = true →
    pool.Covered groupId userId

private theorem Excluded.bannedOut {pool : Joins} (excluded : pool.Excluded) :
    pool.BannedOut := by
  intro finished groupId userId banned isPublic
  cases member : pool.shared.isMember groupId userId with
  | false => rfl
  | true =>
      obtain ⟨task, listed, leaves⟩ :=
        (excluded groupId userId isPublic member).banned banned
      have done := finished task listed
      cases task <;> simp_all [JoinTask.leaves, JoinTask.isFinished]

/-! What the turns that add nobody leave alone. -/

section Standing

variable {start : Store}

private theorem keeps_standing_guard (decision : GuardrailDecision)
    (actor : Uuid)
    (action : ActionClass) (target : String) :
    (GroupSvc.guard decision actor action target).Keeps
      start.SameStanding :=
  GroupSvc.keeps_guard (fun _ _ _ _ _ _ same =>
    ⟨same.groups, same.members, same.bans⟩) decision actor action target

private theorem keeps_openBan (decision : GuardrailDecision)
    (token : Option Claims)
    (req : GroupSvc.BanMemberRequest) :
    (GroupSvc.openBan decision token req).Keeps start.SameStanding := by
  refine (readOnly_authenticate _).keeps.bind fun claims => ?_
  refine (GroupSvc.readOnly_requireUserId _).keeps.bind fun target => ?_
  refine Effect.Keeps.bind (GroupSvc.keeps_permitBan ?_ _ _ _)
    fun _ => (Effect.readOnly_pure _).keeps
  intro store _ _ _ _ _ same
  exact ⟨same.groups, same.members, same.bans⟩

private theorem readOnly_openAdd (token : Option Claims)
    (req : GroupSvc.AddMembersRequest) :
    (GroupSvc.openAdd token req).ReadOnly := by
  refine (readOnly_authenticate _).bind fun claims => ?_
  refine (Effect.readOnly_check _ _).bind fun _ => ?_
  refine (GroupSvc.readOnly_requireGroupId _).bind fun groupId => ?_
  refine ((Effect.readOnly_require _ _).mapError _).bind fun group => ?_
  exact (Effect.readOnly_check _ _).bind fun _ => Effect.readOnly_pure _

private theorem readOnly_askMember (member : IdText) :
    (GroupSvc.askMember member).ReadOnly := by
  refine (Effect.readOnly_ofOption _ _).bind fun userId => ?_
  refine (Effect.readOnly_check _ _).bind fun _ => ?_
  exact (Effect.readOnly_check _ _).bind fun _ => Effect.readOnly_pure _

private theorem readOnly_findChannel (groupId userId : Uuid) :
    (MessagingSvc.findChannel groupId userId).ReadOnly := by
  refine (Effect.readOnly_require _ _).bind fun group => ?_
  exact (Effect.readOnly_read _).bind fun _ => Effect.readOnly_pure _

private theorem keeps_openCreate (decision : GuardrailDecision)
    (token : Option Claims) (req : GroupSvc.CreatePublicGroupRequest) :
    (GroupSvc.openCreate decision token req).Keeps start.SameStanding := by
  refine (readOnly_authenticate _).keeps.bind fun claims => ?_
  refine (Effect.readOnly_check _ _).keeps.bind fun _ => ?_
  refine (Authz.readOnly_require _ _).keeps.bind fun _ => ?_
  exact (keeps_standing_guard _ _ _ _).bind
    fun _ => (Effect.readOnly_pure _).keeps

private theorem keeps_standing_createDevice (fresh userId : Uuid)
    (name : String) :
    (Store.createDevice fresh userId name).Keeps start.SameStanding := by
  refine (Effect.readOnly_check _ _).keeps.bind fun _ => ?_
  refine Effect.Keeps.bind (Effect.keeps_update ?_)
    fun _ => (Effect.readOnly_pure _).keeps
  intro store same
  exact ⟨same.groups, same.members, same.bans⟩

private theorem keeps_standing_storeRefreshToken (row : RefreshRow) :
    (Store.storeRefreshToken row).Keeps start.SameStanding := by
  refine (Effect.readOnly_check _ _).keeps.bind fun _ => ?_
  refine (Effect.readOnly_check _ _).keeps.bind fun _ => ?_
  intro store same
  exact ⟨same.groups, same.members, same.bans⟩

end Standing

private theorem misses_joined (next : AfterJoin) (groupId userId : Uuid) :
    next.joined.misses groupId userId = false := by
  cases next <;> rfl

private theorem misses_refused (next : AfterJoin) (groupId userId : Uuid) :
    next.refused.misses groupId userId = false := by
  cases next <;> rfl

private theorem misses_sessionJoining (user : UserRow)
    (deviceId groupId userId : Uuid) :
    (JoinTask.sessionJoining user deviceId).misses groupId userId = false := by
  simp only [JoinTask.sessionJoining]
  split <;> rfl

section Turns

variable {pool : Joins} {index : ℕ} {task : JoinTask}
  (found : pool.tasks[index]? = some task)

include found

/-- A turn keeps a covered user covered if it bans nobody else and its task
goes on with what it has to leave. -/
theorem Covered.settle {groupId userId : Uuid} {after : Store}
    {next : JoinTask} (covered : pool.Covered groupId userId)
    (bans : after.isBanned userId = true →
      pool.shared.isBanned userId = true)
    (leaves : task.leaves groupId userId = true →
      next.leaves groupId userId = true)
    (listed : next.misses groupId userId = false) :
    Covered (pool.settle index (after, next)) groupId userId where
  banned := by
    intro banned
    obtain ⟨other, member, due⟩ := covered.banned (bans banned)
    obtain ⟨place, stored⟩ := List.mem_iff_getElem?.mp member
    by_cases same : place = index
    · subst same
      rw [found] at stored
      cases stored
      exact ⟨next, List.mem_of_getElem? (by
        rw [Tasks.Pool.settle_tasks, Slots.getElem?_set_of_found found,
          if_pos rfl]), leaves due⟩
    · exact ⟨other, List.mem_of_getElem? (by
        rw [Tasks.Pool.settle_tasks, Slots.getElem?_set_of_found found,
          if_neg same, stored]), due⟩
  listed := by
    intro other member
    rcases List.mem_or_eq_of_mem_set member with old | rfl
    · exact covered.listed other old
    · exact listed

variable (excluded : pool.Excluded)

include excluded

/-- A turn that touches no membership and no ban, of a call that is not
leaving groups. -/
theorem Excluded.quiet (idle : ∀ groupId userId,
      task.leaves groupId userId = false)
    {after : Store} {next : JoinTask}
    (same : pool.shared.SameStanding after)
    (silent : ∀ groupId userId, next.misses groupId userId = false) :
    Excluded (pool.settle index (after, next)) := by
  intro groupId userId isPublic member
  simp only [Tasks.Pool.settle_shared, Store.kindOf, Store.isMember,
    same.groups, same.members] at isPublic member
  apply (excluded groupId userId isPublic member).settle found
  · intro banned
    rw [Store.isBanned, same.bans] at banned
    exact banned
  · intro leaves
    rw [idle] at leaves
    cases leaves
  · exact silent groupId userId

private theorem Excluded.quietTurn (idle : ∀ groupId userId,
      task.leaves groupId userId = false)
    {Error Value : Type} {effect : Effect Store Error Value}
    (kept : effect.Keeps pool.shared.SameStanding)
    {next : Value → JoinTask} {failed : Error → JoinTask}
    (succeeds : ∀ value groupId userId,
      (next value).misses groupId userId = false)
    (fails : ∀ error groupId userId,
      (failed error).misses groupId userId = false) :
    Excluded (pool.settle index
      (Tasks.turn effect next failed pool.shared)) := by
  have standing : effect.Post pool.shared fun _ after =>
      pool.shared.SameStanding after := kept pool.shared (.refl _)
  apply Tasks.turn_post (fun outcome => Excluded (pool.settle index outcome))
    standing
  · intro value after same
    exact excluded.quiet found idle same (succeeds value)
  · intro error after same
    exact excluded.quiet found idle same (fails error)

theorem Excluded.list {caller target : Uuid} {reason : String}
    (isList : task = .banListing caller target reason) :
    Excluded (pool.settle index (pool.shared,
      .banRemoving caller target reason
        (pool.shared.groupIdsForUser target))) := by
  intro groupId userId isPublic member
  apply (excluded groupId userId isPublic member).settle found id
  · intro leaves
    rw [isList] at leaves
    cases leaves
  · rw [JoinTask.misses, Bool.and_eq_false_imp, beq_iff_eq]
    rintro rfl
    simpa using Store.mem_groupIdsForUser.mpr member

theorem Excluded.remove {caller target group : Uuid} {reason : String}
    {rest : List Uuid}
    (isRemove : task = .banRemoving caller target reason (group :: rest)) :
    Excluded (pool.settle index (pool.shared.removeMember group target,
      .banRemoving caller target reason rest)) := by
  intro groupId userId isPublic member
  have remains := (Store.isMember_removeMember ..).mp member
  have covered := excluded groupId userId isPublic remains.1
  have listed := covered.listed task (List.mem_of_getElem? found)
  rw [isRemove] at listed
  -- The membership is another one, so it is in the list's tail.
  have tail : target = userId → groupId ∈ group :: rest →
      groupId ∈ rest := by
    rintro rfl inList
    rcases List.mem_cons.mp inList with rfl | inRest
    · exact absurd ⟨rfl, rfl⟩ remains.2
    · exact inRest
  simp only [JoinTask.misses, Bool.and_eq_false_imp, beq_iff_eq,
    Bool.not_eq_false', List.contains_iff_mem] at listed
  apply covered.settle found
  · exact fun banned => banned
  · intro leaves
    rw [isRemove] at leaves
    simp only [JoinTask.leaves, Bool.and_eq_true, beq_iff_eq,
      List.contains_iff_mem] at leaves ⊢
    exact ⟨leaves.1, tail leaves.1 leaves.2⟩
  · simp only [JoinTask.misses, Bool.and_eq_false_imp, beq_iff_eq,
      Bool.not_eq_false', List.contains_iff_mem]
    intro same
    exact tail same (listed same)

theorem Excluded.ban {caller target : Uuid} {reason : String}
    (isBan : task = .banRemoving caller target reason []) :
    Excluded (pool.settle index (pool.shared.banUser target caller reason,
      .finished)) := by
  intro groupId userId isPublic member
  have same : (pool.shared.banUser target caller reason).groups =
      pool.shared.groups ∧
      (pool.shared.banUser target caller reason).groupMembers =
        pool.shared.groupMembers := by
    simp only [Store.banUser]
    split <;> exact ⟨rfl, rfl⟩
  simp only [Tasks.Pool.settle_shared, Store.kindOf, Store.isMember,
    same] at isPublic member
  have covered := excluded groupId userId isPublic member
  have listed := covered.listed task (List.mem_of_getElem? found)
  rw [isBan] at listed
  have different : userId ≠ target := by
    rintro rfl
    simp [JoinTask.misses] at listed
  apply covered.settle found
  · intro banned
    rw [Store.isBanned_banUser _ _ _ _ different] at banned
    exact banned
  · intro leaves
    rw [isBan] at leaves
    simp [JoinTask.leaves] at leaves
  · rfl

theorem Excluded.join {groupId userId : Uuid} {role : String}
    {next : AfterJoin} (isJoin : task = .joining groupId userId role next)
    (covers : pool.shared.wouldJoin groupId userId = true →
      pool.Covered groupId userId) :
    Excluded (pool.settle index (Tasks.turn
      (Store.addMember groupId userId role) (fun _ => next.joined)
      (fun _ => next.refused) pool.shared)) := by
  have idle : ∀ groupId userId, task.leaves groupId userId = false := by
    intro _ _
    rw [isJoin]
    rfl
  simp only [Tasks.turn, Store.addMember_eq]
  cases references : pool.shared.referencesHold
      (pool.shared.hasGroup groupId && pool.shared.hasUser userId) with
  | false =>
      exact excluded.quiet found idle (.refl _) (misses_refused next)
  | true =>
      cases member : pool.shared.isMember groupId userId with
      | true =>
          exact excluded.quiet found idle (.refl _) (misses_joined next)
      | false =>
          intro group user isPublic added
          have covered : pool.Covered group user := by
            rcases (Store.isMember_append ..).mp added with before | ⟨rfl, rfl⟩
            · exact excluded group user isPublic before
            · apply covers
              simp only [Store.wouldJoin, references, member, Bool.not_false,
                Bool.and_true, beq_iff_eq]
              exact isPublic
          apply covered.settle found
          · exact fun banned => banned
          · intro leaves
            rw [idle] at leaves
            cases leaves
          · exact misses_joined next group user

theorem Excluded.create {caller : Uuid}
    {req : GroupSvc.CreatePublicGroupRequest} {fresh : Uuid}
    (isCreate : task = .createInserting caller req)
    (unused : ∀ row ∈ pool.shared.groupMembers, row.groupId ≠ fresh) :
    Excluded (pool.settle index (Tasks.turn
      (GroupSvc.insertChannel fresh req)
      (fun groupId => .joining groupId caller "owner" .nothing)
      (fun _ => .finished) pool.shared)) := by
  have idle : ∀ groupId userId, task.leaves groupId userId = false := by
    intro _ _
    rw [isCreate]
    rfl
  simp only [Tasks.turn, GroupSvc.insertChannel, orStatus, Effect.mapError,
    Store.createPublicGroup, Effect.check_bind]
  cases present : pool.shared.hasGroup fresh with
  | true => exact excluded.quiet found idle (.refl _) (fun _ _ => rfl)
  | false =>
      intro group user isPublic member
      obtain ⟨row, listed, rfl, rfl⟩ := Store.isMember_iff.mp member
      have old : pool.shared.kindOf row.groupId = some .pub := by
        rw [← isPublic]
        exact (Store.kindOf_append_of_ne (unused row listed).symm).symm
      apply (excluded _ _ old member).settle found
      · exact fun banned => banned
      · intro leaves
        rw [idle] at leaves
        cases leaves
      · rfl

theorem Excluded.turned {mint : AuthSvc.Mint}
    (lawful : pool.Lawful (.turn index mint)) :
    Excluded (machine.turned pool index task mint) := by
  have permitted : pool.Permits mint task := lawful task found
  simp only [Tasks.Machine.turned, machine]
  cases task with
  | banOpening decision token req =>
      exact excluded.quietTurn found (fun _ _ => rfl)
        (keeps_openBan decision token req) (fun _ _ _ => rfl)
        (fun _ _ _ => rfl)
  | banListing caller target reason => exact excluded.list found rfl
  | banRemoving caller target reason groups =>
      cases groups with
      | nil => exact excluded.ban found rfl
      | cons group rest => exact excluded.remove found rfl
  | addOpening token req =>
      exact excluded.quietTurn found (fun _ _ => rfl)
        (readOnly_openAdd token req).keeps (fun _ _ _ => rfl)
        (fun _ _ _ => rfl)
  | addAsking groupId members =>
      cases members with
      | nil =>
          exact excluded.quiet found (fun _ _ => rfl) (.refl _)
            (fun _ _ => rfl)
      | cons member rest =>
          exact excluded.quietTurn found (fun _ _ => rfl)
            (readOnly_askMember member).keeps (fun _ _ _ => rfl)
            (fun _ _ _ => rfl)
  | partOpening groupId userId =>
      refine excluded.quiet found (fun _ _ => rfl) (.refl _) fun _ _ => ?_
      split <;> rfl
  | partFinding groupId userId =>
      refine excluded.quietTurn found (fun _ _ => rfl)
        (readOnly_findChannel groupId userId).keeps (fun isOpen _ _ => ?_)
        (fun _ _ _ => rfl)
      split <;> rfl
  | partAsking groupId userId =>
      refine excluded.quiet found (fun _ _ => rfl) (.refl _) fun _ _ => ?_
      split <;> rfl
  | sessionOpening user deviceName =>
      refine excluded.quiet found (fun _ _ => rfl) (.refl _) fun _ _ => ?_
      split <;> rfl
  | sessionFinding user deviceName =>
      refine excluded.quiet found (fun _ _ => rfl) (.refl _) fun _ _ => ?_
      split
      · exact misses_sessionJoining ..
      · rfl
  | sessionCreating user deviceName =>
      exact excluded.quietTurn found (fun _ _ => rfl)
        (keeps_standing_createDevice _ _ _)
        (fun _ _ _ => misses_sessionJoining ..) (fun _ _ _ => rfl)
  | sessionStoring user deviceId =>
      exact excluded.quietTurn found (fun _ _ => rfl)
        (keeps_standing_storeRefreshToken _) (fun _ _ _ => rfl)
        (fun _ _ _ => rfl)
  | createOpening decision token req =>
      exact excluded.quietTurn found (fun _ _ => rfl)
        (keeps_openCreate decision token req) (fun _ _ _ => rfl)
        (fun _ _ _ => rfl)
  | createInserting caller req => exact excluded.create found rfl permitted
  | joining groupId userId role next => exact excluded.join found rfl permitted
  | finished =>
      exact excluded.quiet found (fun _ _ => rfl) (.refl _) fun _ _ => rfl

end Turns

theorem Excluded.started {pool : Joins} (excluded : pool.Excluded)
    (call : JoinCall) : Excluded (machine.started pool call) := by
  intro groupId userId isPublic member
  have covered := excluded groupId userId isPublic member
  constructor
  · intro banned
    obtain ⟨task, listed, leaves⟩ := covered.banned banned
    exact ⟨task, List.mem_append_left _ listed, leaves⟩
  · intro task listed
    rcases List.mem_append.mp listed with old | new
    · exact covered.listed task old
    · rw [List.mem_singleton.mp new]
      cases call <;> rfl

/-- In every run of the calls in which nobody is let in past a ban, banned
users are out of the public channels whenever the calls are completed. -/
theorem bannedOut_of_lawful {store : Store} {events : List JoinEvent}
    (initially : BannedOut ⟨store, []⟩)
    (lawful : EventRun.Each machine.step Lawful ⟨store, []⟩ events) :
    EventRun.Always machine.step BannedOut ⟨store, []⟩ events := by
  have excluded : Excluded ⟨store, []⟩ := by
    intro groupId userId isPublic member
    constructor
    · intro banned
      have out := initially (fun _ listed => nomatch listed) groupId userId
        banned isPublic
      rw [member] at out
      cases out
    · intro task listed
      cases listed
  have always : EventRun.Always machine.step Excluded ⟨store, []⟩ events := by
    apply Tasks.Machine.always_of_turns _ _ excluded lawful
    · intro pool call holds _
      exact holds.started call
    · intro pool index task mint found holds allowed
      exact holds.turned found allowed
  exact always.imp fun _ holds => holds.bannedOut

def townStore : Store where
  users := [⟨1, "owner", "Owner", "", true, false, none, ""⟩,
    ⟨2, "member", "Member", "", false, false, none, ""⟩,
    ⟨3, "troll", "Troll", "", false, false, none, ""⟩]
  groups := [⟨7, "general", "", .pub, .text, "", 0⟩,
    ⟨8, "random", "", .pub, .text, "", 1⟩]
  groupMembers := [⟨7, 1, "owner"⟩, ⟨8, 2, "owner"⟩, ⟨7, 3, "member"⟩]

def banTroll : JoinCall :=
  .banMember .allow (some ⟨1, 10⟩) ⟨some (.uuid 3), "spam"⟩

def inviteTroll : JoinCall :=
  .addMembers (some ⟨2, 20⟩) ⟨some (.uuid 8), [.uuid 3]⟩

private theorem townStore_bannedOut : BannedOut ⟨townStore, []⟩ := by
  intro _ _ _ banned
  cases banned

/-- The ban comes first: the invitation finds it, and the troll's own message
does too, while the member joins. -/
def orderlyBan : List JoinEvent := [
  .start banTroll, .start inviteTroll,
  .turn 0 ⟨0, 90, ""⟩, .turn 1 ⟨0, 90, ""⟩, .turn 0 ⟨0, 90, ""⟩,
  .turn 0 ⟨0, 90, ""⟩, .turn 0 ⟨0, 90, ""⟩, .turn 1 ⟨0, 90, ""⟩,
  .start (.participate 7 3), .start (.participate 7 2),
  .turn 2 ⟨0, 90, ""⟩, .turn 3 ⟨0, 90, ""⟩, .turn 2 ⟨0, 90, ""⟩,
  .turn 3 ⟨0, 90, ""⟩, .turn 2 ⟨0, 90, ""⟩, .turn 3 ⟨0, 90, ""⟩,
  .turn 3 ⟨0, 90, ""⟩]

theorem orderlyBan_bannedOut :
    EventRun.Each machine.step Lawful ⟨townStore, []⟩ orderlyBan ∧
      EventRun.Always machine.step BannedOut ⟨townStore, []⟩ orderlyBan := by
  have lawful : EventRun.Each machine.step Lawful ⟨townStore, []⟩
      orderlyBan := by
    decide +kernel
  exact ⟨lawful, bannedOut_of_lawful townStore_bannedOut lawful⟩

/-- The invitation asks for bans before the ban is recorded, and adds its
member after the ban has listed the channels. -/
def overtakenBan : List JoinEvent := [
  .start banTroll, .start inviteTroll,
  .turn 0 ⟨0, 90, ""⟩, .turn 0 ⟨0, 90, ""⟩, .turn 0 ⟨0, 90, ""⟩,
  .turn 1 ⟨0, 90, ""⟩, .turn 1 ⟨0, 90, ""⟩, .turn 0 ⟨0, 90, ""⟩,
  .turn 1 ⟨0, 90, ""⟩, .turn 1 ⟨0, 90, ""⟩]

theorem overtakenBan_not_bannedOut :
    BannedOut ⟨townStore, []⟩ ∧
      ¬ EventRun.Always machine.step BannedOut ⟨townStore, []⟩
        overtakenBan := by
  refine ⟨townStore_bannedOut, fun always => ?_⟩
  have out := always.last (by decide +kernel) 8 3 (by decide +kernel)
    (by decide +kernel)
  revert out
  decide +kernel

end Joins

end Accord
