import Accord.Server.Permanence

/-! What those can change who hold no permission to moderate: nothing that
others rely on. -/

namespace Accord

/-- The user may neither manage channels or roles nor kick or ban. -/
structure Powerless (store : Store) (user : Uuid) : Prop where
  channels : (Authz.effective store user).allows
    Permissions.manageChannels = false
  roles : (Authz.effective store user).allows Permissions.manageRoles = false
  kicks : (Authz.effective store user).allows Permissions.kickMembers = false
  bans : (Authz.effective store user).allows Permissions.banMembers = false

instance (store : Store) (user : Uuid) : Decidable (Powerless store user) :=
  decidable_of_iff
    ((Authz.effective store user).allows Permissions.manageChannels = false ∧
      (Authz.effective store user).allows Permissions.manageRoles = false ∧
      (Authz.effective store user).allows Permissions.kickMembers = false ∧
      (Authz.effective store user).allows Permissions.banMembers = false)
    ⟨fun ⟨channels, roles, kicks, bans⟩ => ⟨channels, roles, kicks, bans⟩,
      fun ⟨channels, roles, kicks, bans⟩ => ⟨channels, roles, kicks, bans⟩⟩

namespace Store

structure SamePowers (before after : Store) : Prop where
  accounts : after.users.map UserRow.account =
    before.users.map UserRow.account
  roles : after.roles = before.roles
  memberRoles : after.memberRoles = before.memberRoles

namespace SamePowers

theorem refl (store : Store) : store.SamePowers store := ⟨rfl, rfl, rfl⟩

theorem trans {first second third : Store} (same : first.SamePowers second)
    (again : second.SamePowers third) : first.SamePowers third :=
  ⟨again.accounts.trans same.accounts, again.roles.trans same.roles,
    again.memberRoles.trans same.memberRoles⟩

variable {before after : Store} (same : before.SamePowers after)

include same

theorem effective (user : Uuid) :
    Authz.effective after user = Authz.effective before user := by
  have owner : ∀ store : Store, store.isOwner user =
      (store.users.map UserRow.account).any
        fun account => account.1 == user && account.2.2 := by
    intro store
    simp only [isOwner, List.any_map]
    rfl
  have guest : ∀ store : Store, store.isUserGuest user =
      (store.users.map UserRow.account).any
        fun account => account.1 == user && account.2.1 := by
    intro store
    simp only [isUserGuest, List.any_map]
    rfl
  simp only [Authz.effective, owner, guest, same.accounts, memberPermissions,
    hasRole, same.roles, same.memberRoles]

theorem powerless {user : Uuid} (powerless : Powerless before user) :
    Powerless after user := by
  obtain ⟨channels, roles, kicks, bans⟩ := powerless
  rw [← same.effective user] at channels roles kicks bans
  exact ⟨channels, roles, kicks, bans⟩

end SamePowers

/-- Roles, their assignment and bans are as they were; the groups are, and new
ones are private; and what was written stays.  Only the callers left groups or
changed their names. -/
structure Unmoved (callers : Uuid → Prop) (before after : Store) : Prop where
  roles : after.roles = before.roles
  memberRoles : after.memberRoles = before.memberRoles
  bans : after.bans = before.bans
  groups : ∃ newer, after.groups = before.groups ++ newer ∧
    ∀ group ∈ newer, group.kind = .priv
  memberships : ∀ row ∈ before.groupMembers,
    row ∈ after.groupMembers ∨ callers row.userId
  pub : Log.Extends (·.seq) before.publicMessages after.publicMessages
  priv : Log.Extends (·.seq) before.privateMessages after.privateMessages
  accounts : before.KeepsAccounts callers after

namespace Unmoved

variable {callers : Uuid → Prop}

theorem refl (store : Store) : store.Unmoved callers store where
  roles := rfl
  memberRoles := rfl
  bans := rfl
  groups := ⟨[], (List.append_nil _).symm, nofun⟩
  memberships _ listed := .inl listed
  pub := .refl _
  priv := .refl _
  accounts := .refl store

theorem trans {first second third : Store}
    (unmoved : first.Unmoved callers second)
    (again : second.Unmoved callers third) : first.Unmoved callers third where
  roles := again.roles.trans unmoved.roles
  memberRoles := again.memberRoles.trans unmoved.memberRoles
  bans := again.bans.trans unmoved.bans
  groups := by
    obtain ⟨newer, same, isPrivate⟩ := unmoved.groups
    obtain ⟨newest, also, too⟩ := again.groups
    refine ⟨newer ++ newest, by rw [also, same, List.append_assoc], ?_⟩
    intro group listed
    exact (List.mem_append.mp listed).elim (isPrivate group) (too group)
  memberships row listed := by
    rcases unmoved.memberships row listed with kept | left
    · exact again.memberships row kept
    · exact .inr left
  pub := unmoved.pub.trans again.pub
  priv := unmoved.priv.trans again.priv
  accounts := unmoved.accounts.trans again.accounts

theorem imp {before after : Store} (unmoved : before.Unmoved callers after)
    {more : Uuid → Prop} (weaken : ∀ user, callers user → more user) :
    before.Unmoved more after where
  roles := unmoved.roles
  memberRoles := unmoved.memberRoles
  bans := unmoved.bans
  groups := unmoved.groups
  memberships row listed :=
    (unmoved.memberships row listed).imp id (weaken row.userId)
  pub := unmoved.pub
  priv := unmoved.priv
  accounts := unmoved.accounts.imp weaken

theorem of_same {before after : Store} (same : before.SameRecords after) :
    before.Unmoved callers after where
  roles := same.roles
  memberRoles := same.memberRoles
  bans := same.bans
  groups := ⟨[], by rw [same.groups, List.append_nil], nofun⟩
  memberships row listed := by
    rw [same.members]
    exact .inl listed
  pub := .of_eq same.pub
  priv := .of_eq same.priv
  accounts := .of_eq same.users same.bans

end Unmoved

end Store

namespace Statement

variable {start before after : Store} {request : Request}

theorem unmoved (statement : Statement start request before after)
    (powerless : ∀ user, request.caller = some user →
      Powerless before user) :
    before.Unmoved (request.caller = some ·) after := by
  have accounts := statement.keepsAccounts
  have still : before.Unmoved (request.caller = some ·) before := .refl before
  cases statement with
  | register row =>
      exact { still with accounts := accounts }
  | addDevice | storeToken | dropToken | revoke | queue | drain | audit =>
      exact .of_same ⟨rfl, rfl, rfl, rfl, rfl, rfl, rfl, rfl⟩
  | ban user target reason signed allowed =>
      rw [(powerless user signed).bans] at allowed
      cases allowed
  | unban user target signed allowed =>
      rw [(powerless user signed).bans] at allowed
      cases allowed
  | remove user groupId target signed permitted =>
      have without := powerless user signed
      rcases permitted with own | kicks | bans
      · refine { still with
          memberships := ?_, accounts := accounts }
        intro row listed
        by_cases named : row.userId = target
        · rw [named, own]
          exact .inr signed
        · refine .inl (List.mem_filter.mpr ⟨listed, ?_⟩)
          simp [named]
      · rw [without.kicks] at kicks
        cases kicks
      · rw [without.bans] at bans
        cases bans.1
  | createChannel user row signed isPublic allowed =>
      rw [(powerless user signed).channels] at allowed
      cases allowed
  | createPrivate row signed isPrivate =>
      refine { still with
        groups := ⟨[row], rfl, ?_⟩, accounts := accounts }
      intro group added
      rw [List.mem_singleton.mp added]
      exact isPrivate
  | enter groupId userId role =>
      exact { still with
        memberships := fun row listed =>
          .inl (List.mem_append_left _ listed)
        accounts := accounts }
  | deleteGroup user groupId signed named isPublic allowed =>
      rw [(powerless user signed).channels] at allowed
      cases allowed
  | placeChannels user categoryId ids signed allowed =>
      rw [(powerless user signed).channels] at allowed
      cases allowed
  | clearCategory user id signed allowed =>
      rw [(powerless user signed).channels] at allowed
      cases allowed
  | rename user displayName avatarUrl signed =>
      exact { still with accounts := accounts }
  | role user call after signed written =>
      have without := (powerless user signed).roles
      cases written with
      | unchanged => exact .refl before
      | created write allowed =>
          rw [without] at allowed
          cases allowed
      | updated id write role allowed =>
          rw [without] at allowed
          cases allowed
      | deleted id role allowed =>
          rw [without] at allowed
          cases allowed
      | reordered ids allowed =>
          rw [without] at allowed
          cases allowed
      | assigned userId roleId role allowed =>
          rw [without] at allowed
          cases allowed
      | unassigned userId roleId role allowed =>
          rw [without] at allowed
          cases allowed
  | storePublic row signed new stored =>
      exact { still with
        pub := .append (Store.storesPublicMessage_above stored)
        accounts := accounts }
  | storePrivate row signed new stored =>
      exact { still with
        priv := .append (Store.storesPrivateMessage_above stored)
        accounts := accounts }
  | elsewhere change same => exact .of_same same.toSameRecords

theorem sameAccounts (statement : Statement start request before after)
    (signed : request.caller.isSome = true) :
    after.users.map UserRow.account = before.users.map UserRow.account := by
  cases statement with
  | register row ordinary unused signedOut =>
      rw [signedOut] at signed
      cases signed
  | rename user displayName avatarUrl =>
      exact (sameRooms_updateProfile before user displayName
        avatarUrl).accounts
  | ban user target reason =>
      obtain ⟨bans, same⟩ := before.banUser_only target user reason
      rw [same]
  | role user call after signed written => rw [written.users_eq]
  | elsewhere change same => rw [same.users]
  | _ => rfl

end Statement

namespace ServerCall

variable (crypto : AuthCrypto) (config : AuthConfig)

/-- Whoever makes the call may not moderate. -/
def Ordinary (server : Server) (call : ServerCall) : Prop :=
  ∀ user ∈ call.caller, Powerless server.store user

instance (server : Server) (call : ServerCall) :
    Decidable (Ordinary server call) :=
  inferInstanceAs (Decidable (∀ user ∈ call.caller, _))

private theorem step_standing (server : Server) (call : ServerCall)
    (ordinary : Ordinary server call) :
    server.store.Unmoved (call.caller = some ·)
        (step crypto config server call).store ∧
      (call.caller.isSome = true →
        server.store.SamePowers (step crypto config server call).store) :=
  (step_led crypto config server call).keeps
    (fun after =>
      server.store.Unmoved (call.caller = some ·) after ∧
        (call.caller.isSome = true → server.store.SamePowers after))
    (fun before after statement holds => by
      have unmoved := statement.unmoved fun user signed =>
        (holds.2 (Option.isSome_iff_exists.mpr ⟨user, signed⟩)).powerless
          (ordinary user signed)
      refine ⟨holds.1.trans unmoved, fun signed => ?_⟩
      exact (holds.2 signed).trans
        ⟨statement.sameAccounts signed, unmoved.roles, unmoved.memberRoles⟩)
    ⟨.refl _, fun _ => .refl _⟩

/-- Those who may not moderate when a run of signed-in calls starts may not
moderate when they call. -/
private theorem each_ordinary (server : Server) (calls : List ServerCall)
    (powerless : ∀ call ∈ calls, ∃ user, call.caller = some user ∧
      Powerless server.store user) :
    EventRun.Each (step crypto config) Ordinary server calls := by
  induction calls generalizing server with
  | nil => trivial
  | cons call rest induction =>
      obtain ⟨user, signed, without⟩ := powerless call List.mem_cons_self
      have ordinary : Ordinary server call := by
        intro other same
        rw [signed] at same
        rw [← Option.some.inj same]
        exact without
      have same := (step_standing crypto config server call ordinary).2
        (Option.isSome_iff_exists.mpr ⟨user, signed⟩)
      refine ⟨ordinary, induction _ ?_⟩
      intro later listed
      obtain ⟨other, named, also⟩ :=
        powerless later (List.mem_cons_of_mem _ listed)
      exact ⟨other, named, same.powerless also⟩

/-- A run of calls by people who may not moderate leaves roles, assignments,
bans, channels and messages as they are.  It adds private groups, members,
messages and accounts, and only the callers leave groups or change names. -/
theorem ordinary_run (server : Server) (calls : List ServerCall)
    (ordinary : EventRun.Each (step crypto config) Ordinary server calls) :
    server.store.Unmoved
      (fun user => ∃ call ∈ calls, call.caller = some user)
      (EventRun.run (step crypto config) server calls).store :=
  EventRun.relates_of_each
    (fun before after : Server => before.store.Unmoved _ after.store)
    (fun server => .refl server.store)
    (fun unmoved again => unmoved.trans again)
    (fun server call holds => (step_standing crypto config server call
      holds.1).1.imp fun _ signed => ⟨call, holds.2, signed⟩)
    (ordinary.and (EventRun.each_mem server calls))

/-- The second account tries its hand at everything, and leaves. -/
def meddling : List ServerCall := [
  .group (.createPublicGroup .allow 9 (some ⟨2, 20⟩) ⟨"mine", "", "", ""⟩),
  .role (some ⟨2, 20⟩) (.createRole 40 ⟨"mine", "1", "", "", false, false⟩),
  .session (.banMember .allow (some ⟨2, 20⟩) ⟨some (.uuid 1), ""⟩),
  .group (.kickMember .allow (some ⟨2, 20⟩)
    ⟨some (.uuid 8), some (.uuid 1)⟩),
  .updateProfile (some ⟨2, 20⟩) "Someone else" "",
  .group (.kickMember .allow (some ⟨2, 20⟩)
    ⟨some (.uuid 8), some (.uuid 2)⟩)]

theorem meddling_unmoved :
    directStore.Unmoved
      (fun user => ∃ call ∈ meddling, call.caller = some user)
      (EventRun.run (step hallCrypto ⟨true, true⟩) { store := directStore }
        meddling).store := by
  have without : Powerless directStore 2 := by decide
  apply ordinary_run hallCrypto ⟨true, true⟩ { store := directStore } meddling
  apply each_ordinary
  intro call listed
  refine ⟨2, ?_, without⟩
  simp only [meddling, List.mem_cons, List.not_mem_nil, or_false] at listed
  rcases listed with rfl | rfl | rfl | rfl | rfl | rfl <;> rfl

end ServerCall

end Accord
