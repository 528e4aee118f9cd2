import Accord.Library.Keyed
import Accord.Server.Permanence

/-! The keys and the references of the tables, over every run. -/

namespace Accord

namespace Store

/-- What the schema calls unique is unique, and messages are numbered in the
order of their rows. -/
structure KeysUnique (store : Store) : Prop where
  usernames : (store.users.map (·.username)).Nodup
  identities : (store.users.filterMap (·.identityKey)).Nodup
  groups : (store.groups.map (·.id)).Nodup
  members : (store.groupMembers.map
    fun row => (row.groupId, row.userId)).Nodup
  tokens : (store.refreshTokens.map (·.token)).Nodup
  pub : (store.publicMessages.map
    fun row => (row.groupId, row.clientMessageId)).Nodup
  priv : (store.privateMessages.map
    fun row => (row.groupId, row.clientMessageId)).Nodup
  pubOrder : store.publicMessages.Pairwise (·.seq < ·.seq)
  privOrder : store.privateMessages.Pairwise (·.seq < ·.seq)

def Owns (store : Store) (userId deviceId : Uuid) : Prop :=
  ∃ row ∈ store.devices, row.id = deviceId ∧ row.userId = userId

/-- Devices, sessions and mailboxes are the same, and as well guarded. -/
structure SameSessions (before after : Store) : Prop where
  enforced : after.foreignKeys = before.foreignKeys
  devices : after.devices = before.devices
  tokens : after.refreshTokens = before.refreshTokens
  inbox : after.inbox = before.inbox

/-- Whatever a row refers to is there, and a session is on a device of its
user.  The database enforces the `REFERENCES` clauses. -/
structure RefsResolve (store : Store) : Prop where
  enforced : store.foreignKeys = true
  devices : ∀ row ∈ store.devices, store.hasUser row.userId = true
  tokens : ∀ row ∈ store.refreshTokens, store.hasUser row.userId = true ∧
    store.Owns row.userId row.deviceId
  members : ∀ row ∈ store.groupMembers,
    store.hasGroup row.groupId = true ∧ store.hasUser row.userId = true
  pub : ∀ row ∈ store.publicMessages,
    store.hasGroup row.groupId = true ∧ store.hasUser row.senderId = true
  priv : ∀ row ∈ store.privateMessages,
    store.hasGroup row.groupId = true ∧ store.hasUser row.senderId = true ∧
      store.hasDevice row.senderDeviceId = true
  inbox : ∀ row ∈ store.inbox, store.hasDevice row.deviceId = true

theorem nodup_append {Row Key : Type} [DecidableEq Key] {keyOf : Row → Key}
    {rows : List Row} {row : Row} (distinct : (rows.map keyOf).Nodup)
    (new : ∀ old ∈ rows, keyOf old ≠ keyOf row) :
    ((rows ++ [row]).map keyOf).Nodup := by
  have unused : ¬ (⟨rows, distinct⟩ : Keyed keyOf).Has (keyOf row) := by
    intro taken
    obtain ⟨old, listed, same⟩ := List.mem_map.mp taken
    exact new old listed same
  exact ((⟨rows, distinct⟩ : Keyed keyOf).insert row unused).unique

theorem pairwise_append {Row : Type} {number : Row → ℕ} {rows : List Row}
    {row : Row} (ordered : rows.Pairwise (number · < number ·))
    (above : ∀ old ∈ rows, number old < number row) :
    (rows ++ [row]).Pairwise (number · < number ·) := by
  rw [List.pairwise_append]
  refine ⟨ordered, List.pairwise_singleton _ _, ?_⟩
  intro old listed newest added
  rw [List.mem_singleton.mp added]
  exact above old listed

namespace KeysUnique

variable {store : Store} (unique : store.KeysUnique)

include unique

theorem register {row : UserRow}
    (unused : ∀ user ∈ store.users, user.username ≠ row.username ∧
      (row.identityKey.isSome = true →
        user.identityKey ≠ row.identityKey)) :
    ({ store with users := store.users ++ [row] } : Store).KeysUnique :=
  { unique with
    usernames := nodup_append unique.usernames
      fun user listed => (unused user listed).1
    identities := by
      rw [List.filterMap_append, List.nodup_append]
      refine ⟨unique.identities, ?_, ?_⟩
      · cases identity : row.identityKey <;> simp [identity]
      · intro key listed other added same
        obtain ⟨user, present, has⟩ := List.mem_filterMap.mp listed
        obtain ⟨newest, only, also⟩ := List.mem_filterMap.mp added
        rw [List.mem_singleton.mp only] at also
        refine (unused user present).2 (by rw [also]; rfl) ?_
        rw [has, also, same] }

theorem createGroup {row : GroupRow} (new : store.hasGroup row.id = false) :
    ({ store with groups := store.groups ++ [row] } : Store).KeysUnique :=
  { unique with
    groups := nodup_append unique.groups fun group listed same => by
      have found : store.hasGroup row.id = true :=
        List.any_eq_true.mpr ⟨group, listed, beq_iff_eq.mpr same⟩
      rw [new] at found
      cases found }

theorem enter {groupId userId : Uuid} (role : String)
    (absent : store.isMember groupId userId = false) :
    ({ store with groupMembers :=
        store.groupMembers ++ [⟨groupId, userId, role⟩] } :
      Store).KeysUnique :=
  { unique with
    members := nodup_append unique.members fun row listed same => by
      have found : store.isMember groupId userId = true :=
        isMember_iff.mpr ⟨row, listed, (Prod.mk.inj same).1,
          (Prod.mk.inj same).2⟩
      rw [absent] at found
      cases found }

theorem storeToken {row : RefreshRow}
    (accepted : store.acceptsRefreshToken row = true) :
    ({ store with refreshTokens := store.refreshTokens ++ [row] } :
      Store).KeysUnique :=
  { unique with
    tokens := nodup_append unique.tokens fun old listed same => by
      simp only [acceptsRefreshToken, Bool.and_eq_true, Bool.not_eq_true',
        List.any_eq_false] at accepted
      exact accepted.1 old listed (beq_iff_eq.mpr same) }

theorem storePublic {row : PublicMessageRow}
    (new : store.findPublicMessage row.groupId row.clientMessageId = none)
    (stored : store.storesPublicMessage row = true) :
    ({ store with publicMessages := store.publicMessages ++ [row] } :
      Store).KeysUnique :=
  { unique with
    pub := nodup_append unique.pub fun old listed same => by
      have differs := List.find?_eq_none.mp new old listed
      simp only [Bool.and_eq_true, beq_iff_eq, not_and] at differs
      exact differs (Prod.mk.inj same).1 (Prod.mk.inj same).2
    pubOrder := pairwise_append unique.pubOrder
      (storesPublicMessage_above stored) }

theorem storePrivate {row : PrivateMessageRow}
    (new : store.findPrivateMessage row.groupId row.clientMessageId = none)
    (stored : store.storesPrivateMessage row = true) :
    ({ store with privateMessages := store.privateMessages ++ [row] } :
      Store).KeysUnique :=
  { unique with
    priv := nodup_append unique.priv fun old listed same => by
      have differs := List.find?_eq_none.mp new old listed
      simp only [Bool.and_eq_true, beq_iff_eq, not_and] at differs
      exact differs (Prod.mk.inj same).1 (Prod.mk.inj same).2
    privOrder := pairwise_append unique.privOrder
      (storesPrivateMessage_above stored) }

theorem deleteGroup (groupId : Uuid) :
    (store.deleteGroup groupId).KeysUnique :=
  { unique with
    groups := unique.groups.sublist (List.filter_sublist.map _)
    members := unique.members.sublist (List.filter_sublist.map _)
    pub := unique.pub.sublist (List.filter_sublist.map _)
    priv := unique.priv.sublist (List.filter_sublist.map _)
    pubOrder := unique.pubOrder.sublist List.filter_sublist
    privOrder := unique.privOrder.sublist List.filter_sublist }

end KeysUnique

/-! Channels and accounts are changed in place. -/

private theorem placeChannel_ids (categoryId : String)
    (entries : List (Uuid × ℕ))
    (groups : List GroupRow) :
    (entries.foldl (placeChannel categoryId) groups).map (·.id) =
      groups.map (·.id) := by
  induction entries generalizing groups with
  | nil => rfl
  | cons entry rest induction =>
      rw [List.foldl_cons, induction, placeChannel, List.map_map]
      apply List.map_congr_left
      intro group _
      simp only [Function.comp_apply]
      split <;> rfl

private theorem deleteCategory_ids (store : Store) (id : Uuid) :
    (store.deleteCategory id).groups.map (·.id) = store.groups.map (·.id) := by
  simp only [deleteCategory, List.map_map]
  apply List.map_congr_left
  intro group _
  simp only [Function.comp_apply]
  split <;> rfl

private theorem hasGroup_iff {store : Store} {groupId : Uuid} :
    store.hasGroup groupId = true ↔ groupId ∈ store.groups.map (·.id) := by
  simp [hasGroup]

private theorem hasUser_iff {store : Store} {userId : Uuid} :
    store.hasUser userId = true ↔ userId ∈ store.users.map (·.id) := by
  simp [hasUser]

private theorem updateProfile_keys (store : Store) (userId : Uuid)
    (displayName avatarUrl : String) :
    (store.updateProfile userId displayName avatarUrl).users.map
        (fun user => (user.id, user.username, user.identityKey)) =
      store.users.map fun user =>
        (user.id, user.username, user.identityKey) := by
  simp only [updateProfile, List.map_map]
  apply List.map_congr_left
  intro user _
  simp only [Function.comp_apply]
  split <;> rfl

theorem KeysUnique.updateProfile {store : Store} (unique : store.KeysUnique)
    (userId : Uuid) (displayName avatarUrl : String) :
    (store.updateProfile userId displayName avatarUrl).KeysUnique := by
  have keys := store.updateProfile_keys userId displayName avatarUrl
  have names := congrArg (List.map fun key => key.2.1) keys
  have identities := congrArg (List.filterMap fun key => key.2.2) keys
  simp only [List.map_map, List.filterMap_map] at names identities
  refine { unique with usernames := ?_, identities := ?_ }
  · exact names.symm ▸ unique.usernames
  · exact identities.symm ▸ unique.identities

/-! What is referred to stays, unless what refers to it goes as well. -/

namespace RefsResolve

variable {before after : Store}

private theorem mem_owns {store : Store} {userId deviceId : Uuid}
    (owns : store.Owns userId deviceId) : store.hasDevice deviceId = true := by
  obtain ⟨row, listed, named, _⟩ := owns
  exact List.any_eq_true.mpr ⟨row, listed, beq_iff_eq.mpr named⟩

/-- Users, devices and groups are the same or more, and every row was there
before. -/
theorem grows (resolve : before.RefsResolve)
    (enforced : after.foreignKeys = before.foreignKeys)
    (users : ∀ id, before.hasUser id = true → after.hasUser id = true)
    (groups : ∀ id, before.hasGroup id = true → after.hasGroup id = true)
    (owners : ∀ user id, before.Owns user id → after.Owns user id)
    (devices : ∀ row ∈ after.devices, before.hasUser row.userId = true)
    (tokens : ∀ row ∈ after.refreshTokens, row ∈ before.refreshTokens)
    (members : ∀ row ∈ after.groupMembers, row ∈ before.groupMembers)
    (pub : ∀ row ∈ after.publicMessages, row ∈ before.publicMessages)
    (priv : ∀ row ∈ after.privateMessages, row ∈ before.privateMessages)
    (inbox : ∀ row ∈ after.inbox, row ∈ before.inbox) :
    after.RefsResolve where
  enforced := enforced.trans resolve.enforced
  devices row listed := users _ (devices row listed)
  tokens row listed := by
    obtain ⟨user, owned⟩ := resolve.tokens row (tokens row listed)
    exact ⟨users _ user, owners _ _ owned⟩
  members row listed := by
    obtain ⟨group, user⟩ := resolve.members row (members row listed)
    exact ⟨groups _ group, users _ user⟩
  pub row listed := by
    obtain ⟨group, user⟩ := resolve.pub row (pub row listed)
    exact ⟨groups _ group, users _ user⟩
  priv row listed := by
    obtain ⟨group, user, device⟩ := resolve.priv row (priv row listed)
    refine ⟨groups _ group, users _ user, ?_⟩
    obtain ⟨owner, present, named⟩ := List.any_eq_true.mp device
    exact mem_owns (owners owner.userId _
      ⟨owner, present, beq_iff_eq.mp named, rfl⟩)
  inbox row listed := by
    obtain ⟨owner, present, named⟩ :=
      List.any_eq_true.mp (resolve.inbox row (inbox row listed))
    exact mem_owns (owners owner.userId _
      ⟨owner, present, beq_iff_eq.mp named, rfl⟩)

end RefsResolve

namespace RefsResolve

variable {store : Store} (resolve : store.RefsResolve)

include resolve

theorem register (row : UserRow) :
    ({ store with users := store.users ++ [row] } : Store).RefsResolve := by
  have users : ∀ id, store.hasUser id = true →
      ({ store with users := store.users ++ [row] } : Store).hasUser id =
        true := by
    intro id known
    simp only [hasUser, List.any_append, Bool.or_eq_true]
    exact .inl known
  exact resolve.grows rfl users (fun _ known => known) (fun _ _ owns => owns)
    resolve.devices (fun _ listed => listed) (fun _ listed => listed)
    (fun _ listed => listed) (fun _ listed => listed) (fun _ listed => listed)

theorem addDevice (fresh : Uuid) {userId : Uuid} (name : String)
    (present : store.hasUser userId = true) :
    ({ store with devices := store.devices ++ [⟨fresh, userId, name, none⟩] } :
      Store).RefsResolve := by
  have devices : ∀ row ∈ store.devices ++ [⟨fresh, userId, name, none⟩],
      store.hasUser row.userId = true := by
    intro row listed
    rcases List.mem_append.mp listed with earlier | added
    · exact resolve.devices row earlier
    · rw [List.mem_singleton.mp added]
      exact present
  refine resolve.grows rfl (fun _ known => known) (fun _ known => known) ?_
    devices (fun _ listed => listed) (fun _ listed => listed)
    (fun _ listed => listed) (fun _ listed => listed) (fun _ listed => listed)
  rintro user id ⟨row, listed, owned⟩
  exact ⟨row, List.mem_append_left _ listed, owned⟩

theorem storeToken {row : RefreshRow} (granted : Granted store row) :
    ({ store with refreshTokens := store.refreshTokens ++ [row] } :
      Store).RefsResolve := by
  refine { resolve with tokens := ?_ }
  intro token listed
  rcases List.mem_append.mp listed with earlier | added
  · exact resolve.tokens token earlier
  · rw [List.mem_singleton.mp added]
    cases granted with
    | session user listed named device =>
        refine ⟨List.any_eq_true.mpr ⟨user, listed, beq_iff_eq.mpr named⟩, ?_⟩
        exact device
    | replacing old live user device =>
        rw [← user, ← device]
        exact resolve.tokens old live

theorem revoke (userId deviceId : Uuid) (now : Int) :
    (store.revokeDevice userId deviceId now).RefsResolve := by
  have same : ∀ device : DeviceRow, ∀ revoked : DeviceRow, revoked =
      (if device.id == deviceId && device.userId == userId &&
          device.revokedAt.isNone then
        { device with revokedAt := some now } else device) →
      revoked.id = device.id ∧ revoked.userId = device.userId := by
    rintro device revoked rfl
    split <;> exact ⟨rfl, rfl⟩
  refine resolve.grows rfl (fun _ known => known) (fun _ known => known) ?_ ?_
    (fun _ listed => listed) (fun _ listed => listed)
    (fun _ listed => listed) (fun _ listed => listed) (fun _ listed => listed)
  · rintro user id ⟨device, listed, named, owned⟩
    have kept := same device _ rfl
    exact ⟨_, List.mem_map_of_mem listed, kept.1.trans named,
      kept.2.trans owned⟩
  · intro revoked listed
    obtain ⟨device, present, equation⟩ := List.mem_map.mp listed
    rw [(same device revoked equation.symm).2]
    exact resolve.devices device present

theorem enter {groupId userId : Uuid} (role : String)
    (references : store.referencesHold
      (store.hasGroup groupId && store.hasUser userId) = true) :
    ({ store with groupMembers :=
        store.groupMembers ++ [⟨groupId, userId, role⟩] } :
      Store).RefsResolve := by
  refine { resolve with members := ?_ }
  intro row listed
  rcases List.mem_append.mp listed with earlier | added
  · exact resolve.members row earlier
  · rw [List.mem_singleton.mp added]
    have known : store.hasGroup groupId = true ∧
        store.hasUser userId = true := by
      simpa [referencesHold, resolve.enforced] using references
    exact known

private theorem groupsSame {groups : List GroupRow}
    (same : groups.map (·.id) = store.groups.map (·.id)) :
    ({ store with groups } : Store).RefsResolve := by
  refine resolve.grows rfl (fun _ known => known) ?_ (fun _ _ owns => owns)
    resolve.devices (fun _ listed => listed) (fun _ listed => listed)
    (fun _ listed => listed) (fun _ listed => listed) (fun _ listed => listed)
  intro id known
  rw [hasGroup_iff] at known ⊢
  rw [same]
  exact known

theorem deleteGroup (groupId : Uuid) :
    (store.deleteGroup groupId).RefsResolve := by
  have left : ∀ id : Uuid, (id != groupId) = true →
      store.hasGroup id = true →
      (store.deleteGroup groupId).hasGroup id = true := by
    intro id apart known
    obtain ⟨group, listed, named⟩ := List.any_eq_true.mp known
    refine List.any_eq_true.mpr
      ⟨group, List.mem_filter.mpr ⟨listed, ?_⟩, named⟩
    rw [beq_iff_eq.mp named]
    exact apart
  refine { resolve with members := ?_, pub := ?_, priv := ?_ }
  · intro row listed
    obtain ⟨present, apart⟩ := List.mem_filter.mp listed
    obtain ⟨group, user⟩ := resolve.members row present
    exact ⟨left row.groupId apart group, user⟩
  · intro row listed
    obtain ⟨present, apart⟩ := List.mem_filter.mp listed
    obtain ⟨group, user⟩ := resolve.pub row present
    exact ⟨left row.groupId apart group, user⟩
  · intro row listed
    obtain ⟨present, apart⟩ := List.mem_filter.mp listed
    obtain ⟨group, rest⟩ := resolve.priv row present
    exact ⟨left row.groupId apart group, rest⟩

theorem storePublic {row : PublicMessageRow}
    (stored : store.storesPublicMessage row = true) :
    ({ store with publicMessages := store.publicMessages ++ [row] } :
      Store).RefsResolve := by
  refine { resolve with pub := ?_ }
  intro message listed
  rcases List.mem_append.mp listed with earlier | added
  · exact resolve.pub message earlier
  · rw [List.mem_singleton.mp added]
    simp only [storesPublicMessage, acceptsPublicMessage, referencesHold,
      resolve.enforced, Bool.not_true, Bool.false_or, Bool.and_eq_true]
      at stored
    exact stored.1

theorem storePrivate {row : PrivateMessageRow}
    (stored : store.storesPrivateMessage row = true) :
    ({ store with privateMessages := store.privateMessages ++ [row] } :
      Store).RefsResolve := by
  refine { resolve with priv := ?_ }
  intro message listed
  rcases List.mem_append.mp listed with earlier | added
  · exact resolve.priv message earlier
  · rw [List.mem_singleton.mp added]
    simp only [storesPrivateMessage, acceptsPrivateMessage, referencesHold,
      resolve.enforced, Bool.not_true, Bool.false_or, Bool.and_eq_true,
      and_assoc] at stored
    exact ⟨stored.1, stored.2.1, stored.2.2.1⟩

theorem queue {row : InboxRow} (references : store.referencesHold
      (store.hasDevice row.deviceId) = true) :
    ({ store with inbox := store.inbox ++ [row] } : Store).RefsResolve := by
  refine { resolve with inbox := ?_ }
  intro message listed
  rcases List.mem_append.mp listed with earlier | added
  · exact resolve.inbox message earlier
  · rw [List.mem_singleton.mp added]
    have known : store.hasDevice row.deviceId = true := by
      simpa [referencesHold, resolve.enforced] using references
    exact known

theorem updateProfile (userId : Uuid) (displayName avatarUrl : String) :
    (store.updateProfile userId displayName avatarUrl).RefsResolve := by
  have ids : (store.updateProfile userId displayName avatarUrl).users.map
      (·.id) =
      store.users.map (·.id) := by
    have keys := congrArg (List.map Prod.fst)
      (store.updateProfile_keys userId displayName avatarUrl)
    rw [List.map_map, List.map_map] at keys
    exact keys
  refine resolve.grows rfl ?_ (fun _ known => known) (fun _ _ owns => owns)
    resolve.devices (fun _ listed => listed) (fun _ listed => listed)
    (fun _ listed => listed) (fun _ listed => listed) (fun _ listed => listed)
  intro id known
  rw [hasUser_iff] at known ⊢
  rw [ids]
  exact known

end RefsResolve

end Store

namespace Statement

variable {start before after : Store} {request : Request}

private theorem keysUnique (statement : Statement start request before after)
    (settled : ∀ change, request.change = some change →
      ∀ store : Store, store.SameSessions (change store))
    (unique : before.KeysUnique) : after.KeysUnique := by
  cases statement with
  | register row ordinary unused => exact unique.register unused
  | storeToken row accepted => exact unique.storeToken accepted
  | dropToken token =>
      exact { unique with
        tokens := unique.tokens.sublist (List.filter_sublist.map _) }
  | ban user target reason =>
      obtain ⟨bans, same⟩ := before.banUser_only target user reason
      rw [same]
      exact { unique with }
  | remove user groupId target =>
      exact { unique with
        members := unique.members.sublist (List.filter_sublist.map _) }
  | createChannel user row signed isPublic allowed new =>
      exact unique.createGroup new
  | createPrivate row signed isPrivate new => exact unique.createGroup new
  | enter groupId userId role entry references absent =>
      exact unique.enter role absent
  | deleteGroup user groupId => exact unique.deleteGroup groupId
  | placeChannels user categoryId ids =>
      exact { unique with
        groups := Store.placeChannel_ids categoryId ids.zipIdx
          before.groups ▸ unique.groups }
  | clearCategory user id =>
      exact { unique with
        groups := before.deleteCategory_ids id ▸ unique.groups }
  | rename user displayName avatarUrl =>
      exact unique.updateProfile user displayName avatarUrl
  | role user call after signed written =>
      obtain ⟨roles, memberRoles, rfl⟩ := written.only_roles
      exact { unique with }
  | storePublic row signed new stored => exact unique.storePublic new stored
  | storePrivate row signed new stored => exact unique.storePrivate new stored
  | elsewhere change same signedOut named =>
      exact {
        usernames := by rw [same.users]; exact unique.usernames
        identities := by rw [same.users]; exact unique.identities
        groups := by rw [same.groups]; exact unique.groups
        members := by rw [same.members]; exact unique.members
        tokens := by
          rw [(settled change named before).tokens]
          exact unique.tokens
        pub := by rw [same.pub]; exact unique.pub
        priv := by rw [same.priv]; exact unique.priv
        pubOrder := by rw [same.pub]; exact unique.pubOrder
        privOrder := by rw [same.priv]; exact unique.privOrder }
  | _ => exact { unique with }

private theorem refsResolve (statement : Statement start request before after)
    (settled : ∀ change, request.change = some change →
      ∀ store : Store, store.SameSessions (change store))
    (resolve : before.RefsResolve) : after.RefsResolve := by
  cases statement with
  | register row => exact resolve.register row
  | addDevice fresh userId name present =>
      exact resolve.addDevice fresh name present
  | storeToken row accepted granted => exact resolve.storeToken granted
  | dropToken token =>
      exact { resolve with
        tokens := fun row listed =>
          resolve.tokens row (List.mem_of_mem_filter listed) }
  | revoke user deviceId now => exact resolve.revoke user deviceId now
  | ban user target reason =>
      obtain ⟨bans, same⟩ := before.banUser_only target user reason
      rw [same]
      exact { resolve with }
  | remove user groupId target =>
      exact { resolve with
        members := fun row listed =>
          resolve.members row (List.mem_of_mem_filter listed) }
  | createChannel user row =>
      refine resolve.grows rfl (fun _ known => known) ?_
        (fun _ _ owns => owns) resolve.devices (fun _ listed => listed)
        (fun _ listed => listed) (fun _ listed => listed)
        (fun _ listed => listed) (fun _ listed => listed)
      intro id known
      simp only [Store.hasGroup, List.any_append, Bool.or_eq_true]
      exact .inl known
  | createPrivate row =>
      refine resolve.grows rfl (fun _ known => known) ?_
        (fun _ _ owns => owns) resolve.devices (fun _ listed => listed)
        (fun _ listed => listed) (fun _ listed => listed)
        (fun _ listed => listed) (fun _ listed => listed)
      intro id known
      simp only [Store.hasGroup, List.any_append, Bool.or_eq_true]
      exact .inl known
  | enter groupId userId role entry references =>
      exact resolve.enter role references
  | deleteGroup user groupId => exact resolve.deleteGroup groupId
  | placeChannels user categoryId ids =>
      exact resolve.groupsSame
        (Store.placeChannel_ids categoryId ids.zipIdx before.groups)
  | clearCategory user id =>
      exact resolve.groupsSame (before.deleteCategory_ids id)
  | rename user displayName avatarUrl =>
      exact resolve.updateProfile user displayName avatarUrl
  | role user call after signed written =>
      obtain ⟨roles, memberRoles, rfl⟩ := written.only_roles
      exact { resolve with }
  | storePublic row signed new stored => exact resolve.storePublic stored
  | storePrivate row signed new stored => exact resolve.storePrivate stored
  | queue row signed references => exact resolve.queue references
  | drain device =>
      exact { resolve with
        inbox := fun row listed =>
          resolve.inbox row (List.mem_of_mem_filter listed) }
  | elsewhere change same signedOut named =>
      have sessions := settled change named before
      refine resolve.grows sessions.enforced ?_ ?_ ?_ ?_ ?_ ?_ ?_ ?_ ?_
      · simp only [Store.hasUser, same.users]
        exact fun _ known => known
      · simp only [Store.hasGroup, same.groups]
        exact fun _ known => known
      · simp only [Store.Owns, sessions.devices]
        exact fun _ _ owns => owns
      · rw [sessions.devices]
        exact resolve.devices
      · rw [sessions.tokens]
        exact fun _ listed => listed
      · rw [same.members]
        exact fun _ listed => listed
      · rw [same.pub]
        exact fun _ listed => listed
      · rw [same.priv]
        exact fun _ listed => listed
      · rw [sessions.inbox]
        exact fun _ listed => listed
  | _ => exact { resolve with }

end Statement

namespace ServerCall

variable (crypto : AuthCrypto) (config : AuthConfig)

/-- What the call does to other tables leaves devices, sessions and mailboxes
alone. -/
def Settled (call : ServerCall) : Prop :=
  ∀ change, call.change = some change →
    ∀ store : Store, store.SameSessions (change store)

end ServerCall

end Accord
