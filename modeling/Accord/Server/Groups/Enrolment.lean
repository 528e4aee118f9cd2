import Accord.Server.Groups.Service

/-! The loops that add and remove members.  Each entry is checked and written
before the next one is looked at. -/

namespace Accord

namespace Store

/-- Only memberships and the audit log may have changed. -/
def Enrolled (start store : Store) : Prop :=
  store = { start with
    groupMembers := store.groupMembers, auditLog := store.auditLog }

theorem Enrolled.refl (start : Store) : start.Enrolled start := rfl

def enlist (groupId : Uuid) (role : String) (rows : List GroupMemberRow)
    (userId : Uuid) : List GroupMemberRow :=
  if rows.any fun row => row.groupId == groupId && row.userId == userId then
    rows
  else
    rows ++ [⟨groupId, userId, role⟩]

/-- What an `add_member` references is there. -/
def enrollable (store : Store) (groupId userId : Uuid) : Bool :=
  store.referencesHold (store.hasGroup groupId && store.hasUser userId)

section AddMember

variable {start store : Store} (groupId userId : Uuid) (role : String)

theorem keeps_enrolled_addMember :
    (addMember groupId userId role).Keeps start.Enrolled := by
  intro store enrolled
  rw [addMember_eq]
  split
  · split
    · exact enrolled
    · exact congrArg (fun before : Store =>
        { before with
          groupMembers := store.groupMembers ++
            [({ groupId, userId, role } : GroupMemberRow)] }) enrolled
  · exact enrolled

private theorem enrollable_of_enrolled (enrolled : start.Enrolled store) :
    store.enrollable groupId userId = start.enrollable groupId userId := by
  rw [enrolled]
  rfl

private theorem addMember_of_enrollable
    (present : store.enrollable groupId userId = true) :
    orStatus (addMember groupId userId role) store =
      (.ok (), { store with
        groupMembers := enlist groupId role store.groupMembers userId }) := by
  unfold enrollable at present
  apply orStatus_of_ok
  rw [addMember_eq, if_pos present]
  unfold enlist isMember
  split <;> rfl

private theorem addMember_of_missing
    (missing : store.enrollable groupId userId = false) :
    orStatus (addMember groupId userId role) store =
      (.error violation, store) := by
  apply orStatus_of_error
  rw [addMember_eq, if_neg]
  simpa [enrollable] using missing

theorem addMember_passes (store : Store) :
    (orStatus (addMember groupId userId role) store).1 = .ok () ↔
      store.enrollable groupId userId = true := by
  cases present : store.enrollable groupId userId with
  | true => simp [addMember_of_enrollable groupId userId role present]
  | false => simp [addMember_of_missing groupId userId role present]

private theorem addMember_members (store : Store) :
    (orStatus (addMember groupId userId role) store).2.groupMembers =
      if store.enrollable groupId userId then
        enlist groupId role store.groupMembers userId
      else
        store.groupMembers := by
  cases present : store.enrollable groupId userId with
  | true => rw [addMember_of_enrollable groupId userId role present]; rfl
  | false => rw [addMember_of_missing groupId userId role present]; rfl

end AddMember

/-! A list of entries leaves the memberships as they were exactly when each of
them would. -/

private theorem prefix_foldl_enlist (groupId : Uuid) (role : String)
    (userIds : List Uuid) (rows : List GroupMemberRow) :
    rows <+: userIds.foldl (enlist groupId role) rows := by
  induction userIds generalizing rows with
  | nil => exact List.prefix_refl rows
  | cons userId rest induction =>
      have first : rows <+: enlist groupId role rows userId := by
        unfold enlist
        split
        · exact List.prefix_refl rows
        · exact List.prefix_append rows _
      exact first.trans (induction _)

theorem foldl_enlist_eq_iff (groupId : Uuid) (role : String)
    (userIds : List Uuid) (rows : List GroupMemberRow) :
    userIds.foldl (enlist groupId role) rows = rows ↔
      ∀ userId ∈ userIds,
        (rows.any fun row =>
          row.groupId == groupId && row.userId == userId) = true := by
  induction userIds with
  | nil => simp
  | cons userId rest induction =>
      rw [List.foldl_cons, List.forall_mem_cons]
      by_cases known : (rows.any fun row =>
          row.groupId == groupId && row.userId == userId) = true
      · rw [enlist, if_pos known, induction, and_iff_right known]
      · rw [enlist, if_neg known]
        have grown := (prefix_foldl_enlist groupId role rest
          (rows ++ [⟨groupId, userId, role⟩])).length_le
        constructor
        · intro same
          rw [same, List.length_append, List.length_singleton] at grown
          omega
        · intro all
          exact absurd all.1 known

def strike (groupId : Uuid) (rows : List GroupMemberRow) (userId : Uuid) :
    List GroupMemberRow :=
  rows.filter fun row => !(row.groupId == groupId && row.userId == userId)

private theorem foldl_strike_sublist (groupId : Uuid) (userIds : List Uuid)
    (rows : List GroupMemberRow) :
    (userIds.foldl (strike groupId) rows).Sublist rows := by
  induction userIds generalizing rows with
  | nil => exact List.Sublist.refl rows
  | cons userId rest induction =>
      exact (induction _).trans List.filter_sublist

theorem foldl_strike_eq_iff (groupId : Uuid) (userIds : List Uuid)
    (rows : List GroupMemberRow) :
    userIds.foldl (strike groupId) rows = rows ↔
      ∀ userId ∈ userIds,
        (rows.any fun row =>
          row.groupId == groupId && row.userId == userId) = false := by
  induction userIds with
  | nil => simp
  | cons userId rest induction =>
      rw [List.foldl_cons, List.forall_mem_cons]
      have untouched : strike groupId rows userId = rows ↔
          (rows.any fun row =>
            row.groupId == groupId && row.userId == userId) = false := by
        rw [strike, List.filter_eq_self, List.any_eq_false]
        simp only [Bool.not_eq_true']
        simp only [Bool.not_eq_true]
      constructor
      · intro same
        have kept : strike groupId rows userId = rows := by
          apply List.Sublist.antisymm List.filter_sublist
          have below := foldl_strike_sublist groupId rest
            (strike groupId rows userId)
          rwa [same] at below
        rw [kept] at same
        exact ⟨untouched.mp kept, induction.mp same⟩
      · rintro ⟨first, others⟩
        rw [untouched.mpr first]
        exact induction.mpr others

end Store

namespace GroupSvc

open Server Effect

/-! The loops of the three calls. -/

/-- The ids an entry list names, as far as they parse. -/
def named (members : List IdText) : List Uuid :=
  members.filterMap IdText.parse

def onNamed (act : List GroupMemberRow → Uuid → List GroupMemberRow)
    (rows : List GroupMemberRow) (member : IdText) : List GroupMemberRow :=
  match member.parse with
  | some userId => act rows userId
  | none => rows

theorem foldl_onNamed
    (act : List GroupMemberRow → Uuid → List GroupMemberRow)
    (members : List IdText) (rows : List GroupMemberRow) :
    members.foldl (onNamed act) rows = (named members).foldl act rows := by
  induction members generalizing rows with
  | nil => rfl
  | cons member rest induction =>
      rw [List.foldl_cons, induction, named, named, List.filterMap_cons]
      unfold onNamed
      cases member.parse with
      | none => rfl
      | some userId => rfl

def enrols (store : Store) (groupId : Uuid) (member : IdText) : Bool :=
  match member.parse with
  | some userId => store.enrollable groupId userId
  | none => false

theorem enrol_follows (start : Store) (groupId : Uuid) :
    Follows start.Enrolled (·.groupMembers) (enrols start groupId)
      (onNamed (Store.enlist groupId "member")) (enrol groupId) where
  kept member :=
    (readOnly_ofOption _ _).keeps.bind fun userId =>
      (Store.keeps_enrolled_addMember groupId userId "member").mapError _
  passes member store enrolled := by
    cases member with
    | malformed => simp [enrol, enrols, IdText.parse, ofOption, require, bind,
        Effect.bind]
    | uuid userId =>
        change _ ↔ start.enrollable groupId userId = true
        rw [← Store.enrollable_of_enrolled _ _ enrolled]
        exact Store.addMember_passes groupId userId "member" store
  moves member store enrolled := by
    cases member with
    | malformed => rfl
    | uuid userId =>
        change _ = if start.enrollable groupId userId then _ else _
        rw [← Store.enrollable_of_enrolled _ _ enrolled]
        exact Store.addMember_members groupId userId "member" store

def adds (store : Store) (groupId : Uuid) (member : IdText) : Bool :=
  match member.parse with
  | some userId =>
      !store.isUserGuest userId && !store.isBanned userId &&
        store.enrollable groupId userId
  | none => false

private theorem addMemberById_eq (groupId userId : Uuid) (store : Store) :
    addMemberById groupId (.uuid userId) store =
      if store.isUserGuest userId then
        (.error (ServerError.permissionDenied : Status), store)
      else if store.isBanned userId then
        (.error ⟨.failedPrecondition, "user is banned from this server"⟩,
          store)
      else
        orStatus (Store.addMember groupId userId "member") store := by
  have parsed : (ofOption (IdText.uuid userId).parse
      (ServerError.invalidArgument "member id is not a valid UUID" : Status) :
        Effect Store Status Uuid) store = (.ok userId, store) := rfl
  simp only [addMemberById, bind_of_ok parsed, check_bind]
  cases store.isUserGuest userId <;> cases store.isBanned userId <;> rfl

private theorem addMemberById_enrolled {start store : Store}
    (enrolled : start.Enrolled store) (groupId userId : Uuid) :
    addMemberById groupId (.uuid userId) store =
      if start.isUserGuest userId then
        (.error (ServerError.permissionDenied : Status), store)
      else if start.isBanned userId then
        (.error ⟨.failedPrecondition, "user is banned from this server"⟩,
          store)
      else
        orStatus (Store.addMember groupId userId "member") store := by
  have guest : store.isUserGuest userId = start.isUserGuest userId := by
    rw [enrolled]
    rfl
  have banned : store.isBanned userId = start.isBanned userId := by
    rw [enrolled]
    rfl
  rw [addMemberById_eq, guest, banned]

theorem addMemberById_follows (start : Store) (groupId : Uuid) :
    Follows start.Enrolled (·.groupMembers) (adds start groupId)
      (onNamed (Store.enlist groupId "member")) (addMemberById groupId) where
  kept member := by
    refine (readOnly_ofOption _ _).keeps.bind fun userId => ?_
    refine (readOnly_check _ _).keeps.bind fun _ => ?_
    refine (readOnly_check _ _).keeps.bind fun _ => ?_
    exact (Store.keeps_enrolled_addMember groupId userId "member").mapError _
  passes member store enrolled := by
    cases member with
    | malformed => simp [addMemberById, adds, IdText.parse, ofOption, require,
        bind, Effect.bind]
    | uuid userId =>
        have added := Store.addMember_passes groupId userId "member" store
        rw [Store.enrollable_of_enrolled _ _ enrolled] at added
        rw [addMemberById_enrolled enrolled]
        simp only [adds, IdText.parse]
        split_ifs <;> simp [*]
  moves member store enrolled := by
    cases member with
    | malformed => rfl
    | uuid userId =>
        have added := Store.addMember_members groupId userId "member" store
        rw [Store.enrollable_of_enrolled _ _ enrolled] at added
        rw [addMemberById_enrolled enrolled]
        simp only [adds, IdText.parse, onNamed]
        split_ifs <;> simp_all

def removes (decisions : ℕ → GuardrailDecision) (store : Store)
    (caller : Uuid) (entry : IdText × ℕ) : Bool :=
  match entry.1.parse with
  | some userId =>
      userId == caller ||
        (Authz.effective store caller).allows Permissions.kickMembers &&
          (decisions entry.2).allowed
  | none => false

theorem guard_passes (decision : GuardrailDecision) (actor : Uuid)
    (action : ActionClass) (target : String) (store : Store) :
    (guard decision actor action target store).1 = .ok () ↔
      decision.allowed = true := by
  cases decision <;> simp [guard, GuardrailDecision.allowed,
    GuardrailDecision.result, Effect.ofExcept, update, bind, Effect.bind]

private theorem keeps_enrolled_guard {start : Store}
    (decision : GuardrailDecision)
    (actor : Uuid) (action : ActionClass) (target : String) :
    (guard decision actor action target).Keeps start.Enrolled := by
  intro store enrolled
  have audited : ∀ row : AuditRow, start.Enrolled
      { store with auditLog := store.auditLog ++ [row] } := by
    intro row
    exact congrArg (fun before : Store =>
      { before with auditLog := store.auditLog ++ [row] }) enrolled
  cases decision with
  | allow => exact enrolled
  | allowFlagged reason => exact audited _
  | throttle secs reason => exact audited _
  | deny reason => exact audited _

private theorem guard_members (decision : GuardrailDecision) (actor : Uuid)
    (action : ActionClass) (target : String) (store : Store) :
    (guard decision actor action target store).2.groupMembers =
      store.groupMembers := by
  cases decision <;> rfl

private theorem permitRemoval_passes (decision : GuardrailDecision)
    (caller userId : Uuid) (store : Store) :
    (permitRemoval decision caller userId store).1 = .ok () ↔
      userId = caller ∨
        (Authz.effective store caller).allows Permissions.kickMembers = true ∧
          decision.allowed = true := by
  unfold permitRemoval
  by_cases self : userId = caller
  · simp [self, pure, Effect.pure]
  · simp only [self, if_false, false_or, Authz.require, check_bind]
    cases (Authz.effective store caller).allows Permissions.kickMembers with
    | false => simp
    | true =>
        simpa using guard_passes decision caller .kickMember userId.text store

private theorem permitRemoval_members (decision : GuardrailDecision)
    (caller userId : Uuid) (store : Store) :
    (permitRemoval decision caller userId store).2.groupMembers =
      store.groupMembers := by
  unfold permitRemoval
  by_cases self : userId = caller
  · rw [if_pos self]
    rfl
  · rw [if_neg self]
    simp only [Authz.require, check_bind]
    cases (Authz.effective store caller).allows Permissions.kickMembers with
    | false => rfl
    | true => exact guard_members decision caller .kickMember userId.text store

private theorem keeps_enrolled_permitRemoval {start : Store}
    (decision : GuardrailDecision) (caller userId : Uuid) :
    (permitRemoval decision caller userId).Keeps start.Enrolled := by
  unfold permitRemoval
  split
  · exact (readOnly_pure _).keeps
  · refine (Authz.readOnly_require _ _).keeps.bind fun _ => ?_
    exact keeps_enrolled_guard _ _ _ _

private theorem keeps_enrolled_removeMember {start : Store}
    (groupId userId : Uuid) :
    (removeMember groupId userId).Keeps start.Enrolled := by
  apply keeps_update
  intro store enrolled
  exact congrArg (fun before : Store =>
    { before with
      groupMembers := Store.strike groupId store.groupMembers userId })
    enrolled

private theorem removeListed_uuid (decision : GuardrailDecision)
    (caller groupId userId : Uuid) (store : Store) :
    removeListed decision caller groupId (.uuid userId) store =
      (permitRemoval decision caller userId >>= fun _ =>
        removeMember groupId userId) store := rfl

private theorem removes_uuid {start store : Store}
    (enrolled : start.Enrolled store)
    (decisions : ℕ → GuardrailDecision) (caller userId : Uuid) (index : ℕ) :
    removes decisions start caller (.uuid userId, index) = true ↔
      (permitRemoval (decisions index) caller userId store).1 = .ok () := by
  have permissions : Authz.effective store caller =
      Authz.effective start caller := by
    rw [enrolled]
    rfl
  rw [permitRemoval_passes, permissions]
  simp [removes, IdText.parse]

theorem removeListed_follows (decisions : ℕ → GuardrailDecision)
    (start : Store) (caller groupId : Uuid) :
    Follows start.Enrolled (·.groupMembers) (removes decisions start caller)
      (fun rows entry => onNamed (Store.strike groupId) rows entry.1)
      (fun entry =>
        removeListed (decisions entry.2) caller groupId entry.1) where
  kept entry := by
    refine (readOnly_ofOption _ _).keeps.bind fun userId => ?_
    refine (keeps_enrolled_permitRemoval _ _ _).bind fun _ => ?_
    exact keeps_enrolled_removeMember groupId userId
  passes := by
    rintro ⟨member, index⟩ store enrolled
    cases member with
    | malformed => simp [removeListed, removes, IdText.parse, ofOption, require,
        bind, Effect.bind]
    | uuid userId =>
        rw [removes_uuid enrolled, removeListed_uuid]
        rcases ran : permitRemoval (decisions index) caller userId store with
          ⟨result, after⟩
        cases result with
        | ok _ => simp [bind_of_ok ran, removeMember, update]
        | error _ => simp [bind_of_error ran]
  moves := by
    rintro ⟨member, index⟩ store enrolled
    cases member with
    | malformed => rfl
    | uuid userId =>
        have permits := removes_uuid enrolled decisions caller userId index
        have members := permitRemoval_members (decisions index) caller userId
          store
        rw [removeListed_uuid]
        rcases ran : permitRemoval (decisions index) caller userId store with
          ⟨result, after⟩
        rw [ran] at permits members
        cases result with
        | ok _ =>
            rw [bind_of_ok ran, if_pos (permits.mpr rfl), ← members]
            rfl
        | error _ =>
            rw [bind_of_error ran, if_neg (by simp [permits]), ← members]

end GroupSvc

end Accord
