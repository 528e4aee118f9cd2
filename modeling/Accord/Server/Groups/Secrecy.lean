import Accord.Library.Alike
import Accord.Server.Groups.Reads

/-! What an outsider learns of a private group.  Two states are compared that
differ in nothing but its members. -/

namespace Accord

namespace Store

/-- The stores differ in the members of one private group at most, and the
user is not among them. -/
structure OutsideOf (groupId userId : Uuid) (first second : Store) :
    Prop where
  rest : second = { first with groupMembers := second.groupMembers }
  others : second.groupMembers.filter (·.groupId != groupId) =
    first.groupMembers.filter (·.groupId != groupId)
  closed : first.kindOf groupId = some .priv
  firstOut : first.isMember groupId userId = false
  secondOut : second.isMember groupId userId = false

namespace OutsideOf

variable {groupId userId : Uuid} {first second : Store}
  (outside : OutsideOf groupId userId first second)

include outside

theorem view {Value : Type} (ask : Store → Value)
    (blind : ∀ store members,
      ask { store with groupMembers := members } = ask store) :
    ask second = ask first := by
  rw [outside.rest]
  exact blind first _

theorem kindOf (other : Uuid) : second.kindOf other = first.kindOf other :=
  outside.view (·.kindOf other) fun _ _ => rfl

private theorem filter_eq (test : GroupMemberRow → Bool)
    (elsewhere : ∀ row, test row = true → row.groupId ≠ groupId) :
    second.groupMembers.filter test = first.groupMembers.filter test := by
  have narrow : ∀ rows : List GroupMemberRow,
      rows.filter test =
        (rows.filter (·.groupId != groupId)).filter test := by
    intro rows
    rw [List.filter_filter]
    apply List.filter_congr
    intro row _
    cases passed : test row with
    | false => rfl
    | true => simp [elsewhere row passed]
  rw [narrow, outside.others, ← narrow]

private theorem filter_group {other : Uuid} (different : other ≠ groupId)
    (test : GroupMemberRow → Bool) :
    second.groupMembers.filter
        (fun row => row.groupId == other && test row) =
      first.groupMembers.filter
        fun row => row.groupId == other && test row := by
  apply outside.filter_eq
  intro row passed same
  simp only [Bool.and_eq_true, beq_iff_eq] at passed
  exact different (passed.1.symm.trans same)

private theorem isMember_of_ne {other : Uuid} (different : other ≠ groupId)
    (user : Uuid) : second.isMember other user = first.isMember other user := by
  have rows := outside.filter_group different (·.userId == user)
  have listed : ∀ row, row ∈ second.groupMembers.filter
        (fun row => row.groupId == other && row.userId == user) ↔
      row ∈ first.groupMembers.filter
        fun row => row.groupId == other && row.userId == user := by
    intro row
    rw [rows]
  simp only [List.mem_filter, Bool.and_eq_true, beq_iff_eq] at listed
  rw [Bool.eq_iff_iff, isMember_iff, isMember_iff]
  exact exists_congr listed

private theorem isMember_caller (other : Uuid) :
    second.isMember other userId = first.isMember other userId := by
  by_cases same : other = groupId
  · subst same
    rw [outside.firstOut, outside.secondOut]
  · exact outside.isMember_of_ne same userId

private theorem rows_of_ne {other : Uuid} (different : other ≠ groupId) :
    second.groupMembers.filter (·.groupId == other) =
      first.groupMembers.filter (·.groupId == other) := by
  apply outside.filter_eq
  intro row passed same
  exact different ((beq_iff_eq.mp passed).symm.trans same)

private theorem memberIds_of_ne {other : Uuid} (different : other ≠ groupId) :
    second.memberIds other = first.memberIds other := by
  rw [memberIds, memberIds, outside.rows_of_ne different]

private theorem groupSummary_of_ne {group : GroupRow}
    (different : group.id ≠ groupId) :
    second.groupSummary group = first.groupSummary group := by
  unfold groupSummary memberCount
  rw [outside.rows_of_ne different]

theorem listGroupsForUser :
    second.listGroupsForUser userId = first.listGroupsForUser userId := by
  have none : ∀ {store : Store}, store.isMember groupId userId = false →
      store.groupMembers.filter (fun row =>
        row.groupId == groupId && row.userId == userId) = [] := by
    intro store out
    rw [List.filter_eq_nil_iff]
    simpa [isMember] using out
  have groups : second.groups = first.groups :=
    outside.view (·.groups) fun _ _ => rfl
  unfold Store.listGroupsForUser
  rw [groups]
  congr 2
  funext group
  by_cases same : group.id = groupId
  · rw [same, none outside.firstOut, none outside.secondOut]
    rfl
  · rw [outside.filter_group same, outside.groupSummary_of_ne same]

private theorem listMembers_of_ne {other : Uuid} (different : other ≠ groupId) :
    second.listMembers other = first.listMembers other := by
  have users : second.users = first.users :=
    outside.view (·.users) fun _ _ => rfl
  unfold Store.listMembers
  rw [users]
  congr 2
  funext user
  rw [outside.filter_group different]

theorem append {other : Uuid} (different : other ≠ groupId) (role : String) :
    OutsideOf groupId userId
      { first with
        groupMembers := first.groupMembers ++ [⟨other, userId, role⟩] }
      { second with
        groupMembers := second.groupMembers ++ [⟨other, userId, role⟩] } := by
  refine ⟨?_, ?_, outside.closed, ?_, ?_⟩
  · exact congrArg (fun store : Store =>
      { store with
        groupMembers := second.groupMembers ++
          [({ groupId := other, userId, role } : GroupMemberRow)] })
      outside.rest
  · simp only [List.filter_append, outside.others]
  · rw [Bool.eq_false_iff, Ne, isMember_append, not_or, Bool.not_eq_true]
    exact ⟨outside.firstOut, fun joined => different joined.1⟩
  · rw [Bool.eq_false_iff, Ne, isMember_append, not_or, Bool.not_eq_true]
    exact ⟨outside.secondOut, fun joined => different joined.1⟩

end OutsideOf

end Store

/-! Every call, from two such states. -/

/-- The servers differ in their stores at most, and these only in the members
of a private group the user is not in. -/
def Server.OutsideOf (groupId userId : Uuid) (first second : Server) : Prop :=
  first.store.OutsideOf groupId userId second.store ∧
    second.registry = first.registry

section Calls

open Server Effect

variable {groupId : Uuid} {claims : Claims}

private theorem alike_onStore {Value : Type} {userId : Uuid}
    {inner : Effect Store Status Value}
    (alike : inner.Alike (Store.OutsideOf groupId userId)) :
    (onStore inner).Alike (Server.OutsideOf groupId userId) := by
  rintro first second ⟨outside, registry⟩
  obtain ⟨result, after⟩ := alike first.store second.store outside
  exact ⟨result, after, registry⟩

private theorem alike_getGroup (userId other : Uuid) :
    (Store.getGroup other).Alike (Store.OutsideOf groupId userId) :=
  alike_require fun _ _ outside =>
    (outside.view (fun store => store.groups.find? (·.id == other))
      fun _ _ => rfl).symm

private theorem alike_requireGroupId (userId : Uuid) (text : Option IdText) :
    (GroupSvc.requireGroupId text).Alike
      (Store.OutsideOf groupId userId) :=
  (alike_ofOption _ _).bind fun _ => alike_ofOption _ _

/-- The only membership a caller can gain by asking is in another group. -/
private theorem alike_addMember {userId other : Uuid}
    (different : other ≠ groupId)
    (role : String) :
    (Store.addMember other userId role).Alike
      (Store.OutsideOf groupId userId) := by
  refine (alike_check ?_).bind fun _ => alike_update ?_
  · intro first second outside
    exact (outside.view (fun store => store.referencesHold
      (store.hasGroup other && store.hasUser userId)) fun _ _ => rfl).symm
  · intro first second outside
    rw [outside.isMember_of_ne different]
    split
    · exact outside
    · exact outside.append different role

private theorem alike_joinOnFirstUse (userId other : Uuid) :
    (MessagingSvc.joinOnFirstUse other userId).Alike
      (Store.OutsideOf groupId userId) := by
  by_cases same : other = groupId
  · subst same
    intro first second outside
    have secondClosed := (outside.kindOf other).trans outside.closed
    rw [MessagingSvc.joinOnFirstUse_keptOut outside.closed (by simp),
      MessagingSvc.joinOnFirstUse_keptOut secondClosed (by simp)]
    exact ⟨rfl, outside⟩
  · refine (alike_getGroup userId other).bind fun group => ?_
    refine Alike.ite ?_ (alike_pure _)
    refine (alike_read ?_).bind fun keptOut => ?_
    · intro first second outside
      exact (outside.view (fun store =>
        store.isUserGuest userId || store.isBanned userId)
          fun _ _ => rfl).symm
    · refine Alike.ite (alike_pure _) ?_
      exact (alike_addMember same "member").bind fun _ => alike_pure _

private theorem alike_requireParticipant (userId other : Uuid) :
    (MessagingSvc.requireParticipant other userId).Alike
      (Store.OutsideOf groupId userId) := by
  have ensures : (MessagingSvc.ensureParticipant other userId).Alike
      (Store.OutsideOf groupId userId) := by
    refine (alike_read ?_).bind fun member => ?_
    · intro first second outside
      exact (outside.isMember_caller other).symm
    · exact Alike.ite (alike_pure _) (alike_joinOnFirstUse userId other)
  exact ensures.bind fun _ => alike_check fun _ _ _ => rfl

private theorem alike_fetchPublicHistory (req : FetchHistoryRequest) :
    (MessagingSvc.fetchPublicHistory (some claims) req).Alike
      (Store.OutsideOf groupId claims.sub) := by
  rw [MessagingSvc.fetchPublicHistory, authenticate_bind]
  have parses : (MessagingSvc.requireGroupId req.groupId).Alike
      (Store.OutsideOf groupId claims.sub) :=
    (alike_ofOption _ _).bind fun _ => alike_ofOption _ _
  refine (parses.mapError _).bind fun other => ?_
  refine ((alike_requireParticipant _ _).mapError _).bind fun _ => ?_
  refine (alike_read ?_).bind fun rows => alike_pure _
  intro first second outside
  exact (outside.view (fun store => store.fetchPublicHistory other
    req.beforeSequence.toBitVec.toInt
    (MessagingSvc.clampLimit req.limit)) fun _ _ => rfl).symm

private theorem alike_fetchPrivateHistory (req : FetchHistoryRequest) :
    (MessagingSvc.fetchPrivateHistory (some claims) req).Alike
      (Store.OutsideOf groupId claims.sub) := by
  rw [MessagingSvc.fetchPrivateHistory, authenticate_bind]
  have parses : (MessagingSvc.requireGroupId req.groupId).Alike
      (Store.OutsideOf groupId claims.sub) :=
    (alike_ofOption _ _).bind fun _ => alike_ofOption _ _
  refine (parses.mapError _).bind fun other => ?_
  refine (alike_check ?_).bind fun _ => ?_
  · intro first second outside
    exact (outside.isMember_caller other).symm
  · refine (alike_read ?_).bind fun rows => alike_pure _
    intro first second outside
    exact (outside.view (fun store => store.fetchPrivateHistory other
      req.beforeSequence.toBitVec.toInt
      (MessagingSvc.clampLimit req.limit)) fun _ _ => rfl).symm

private theorem alike_listGroups :
    (GroupSvc.listGroups (some claims)).Alike
      (Server.OutsideOf groupId claims.sub) := by
  rw [GroupSvc.listGroups, authenticate_bind]
  refine (alike_onStore (alike_read ?_)).bind fun rows => alike_pure _
  intro first second outside
  exact outside.listGroupsForUser.symm

private theorem alike_listMembers (unreadable : Except Status (List RoleRow))
    (text : Option IdText) :
    (GroupSvc.listMembers unreadable (some claims) text).Alike
      (Server.OutsideOf groupId claims.sub) := by
  rw [GroupSvc.listMembers, authenticate_bind]
  refine (alike_onStore (alike_requireGroupId _ _)).bind fun other => ?_
  by_cases same : other = groupId
  · -- The caller is refused before any row of the group is read.
    subst same
    rintro first second ⟨outside, registry⟩
    have refused : ∀ {server : Server},
        server.store.isMember other claims.sub = false →
        onStore (check (fun store : Store => store.isMember other claims.sub)
          (ServerError.permissionDenied : Status)) server =
            (.error (ServerError.permissionDenied : Status), server) :=
      fun out => onStore_of_error (check_of_false
        (fun store : Store => store.isMember other claims.sub) out _)
    rw [bind_of_error (refused outside.firstOut),
      bind_of_error (refused outside.secondOut)]
    exact ⟨rfl, outside, registry⟩
  · refine (alike_onStore (alike_check ?_)).bind fun _ => ?_
    · intro first second outside
      exact (outside.isMember_caller other).symm
    · refine (alike_read ?_).bind fun members => ?_
      · rintro first second ⟨outside, registry⟩
        have info : GroupSvc.memberInfo unreadable second =
            GroupSvc.memberInfo unreadable first := by
          funext user
          have roles : second.store.rolesForUser unreadable user.id =
              first.store.rolesForUser unreadable user.id :=
            outside.view (·.rolesForUser unreadable user.id) fun _ _ => rfl
          have devices : second.store.deviceIdsForUser user.id =
              first.store.deviceIdsForUser user.id :=
            outside.view (·.deviceIdsForUser user.id) fun _ _ => rfl
          simp only [GroupSvc.memberInfo, roles, devices, registry]
        rw [outside.listMembers_of_ne same, info]
      · intro first second outside
        exact ⟨rfl, outside⟩

def infoOf (store : Store) (group : GroupRow) : GroupInfo where
  summary := GroupSvc.summaryToProto (store.groupSummary group)
  description := group.description
  memberIds := (store.memberIds group.id).map Uuid.text

private theorem getGroupInfo_found {other : Uuid} {group : GroupRow}
    {server : Server}
    (found : server.store.groups.find? (·.id == other) = some group) :
    (GroupSvc.getGroupInfo (some claims) (some (.uuid other)) server).1 =
      .ok (infoOf server.store group) := by
  have known : Store.getGroup other server.store =
      (.ok group, server.store) := by
    simp only [Store.getGroup, require, found]
  have sameId : group.id = other := by
    simpa using List.find?_some found
  subst sameId
  have parsed : (some (IdText.uuid group.id)).bind IdText.parse =
      some group.id := rfl
  rw [GroupSvc.getGroupInfo, authenticate_bind,
    bind_of_ok (onStore_of_ok (GroupSvc.requireGroupId_of_parsed parsed)),
    bind_of_ok (onStore_of_ok (orStatus_of_ok known))]
  rfl

private theorem getGroupInfo_missing {other : Uuid} {server : Server}
    (missing : server.store.groups.find? (·.id == other) = none) :
    (GroupSvc.getGroupInfo (some claims) (some (.uuid other)) server).1 =
      .error (ServerError.notFound ("group " ++ other.text) : Status) := by
  have unknown : Store.getGroup other server.store =
      (.error (.notFound ("group " ++ other.text)), server.store) := by
    simp only [Store.getGroup, require, missing]
  have parsed : (some (IdText.uuid other)).bind IdText.parse =
      some other := rfl
  rw [GroupSvc.getGroupInfo, authenticate_bind,
    bind_of_ok (onStore_of_ok (GroupSvc.requireGroupId_of_parsed parsed)),
    bind_of_error (onStore_of_error (orStatus_of_error unknown))]

private theorem text_injective : Function.Injective Uuid.text := by
  intro first second same
  rw [← Uuid.ofChars_text first, same, Uuid.ofChars_text]

private theorem infoOf_eq_iff {first second : Store} {group : GroupRow} :
    infoOf first group = infoOf second group ↔
      first.memberIds group.id = second.memberIds group.id := by
  constructor
  · intro same
    have texts := congrArg GroupInfo.memberIds same
    exact List.map_injective_iff.mpr text_injective texts
  · intro same
    have lengths := congrArg List.length same
    simp only [Store.memberIds, List.length_map] at lengths
    simp only [infoOf, same, Store.groupSummary, Store.memberCount, lengths]

private theorem getGroupInfo_same_iff (text : Option IdText)
    {first second : Server}
    (outside : Server.OutsideOf groupId claims.sub first second) :
    (GroupSvc.getGroupInfo (some claims) text first).1 =
        (GroupSvc.getGroupInfo (some claims) text second).1 ↔
      (text = some (.uuid groupId) →
        first.store.memberIds groupId = second.store.memberIds groupId) := by
  obtain ⟨outside, registry⟩ := outside
  have groups : second.store.groups = first.store.groups :=
    outside.view (·.groups) fun _ _ => rfl
  rcases text with _ | (other | _)
  · simp only [reduceCtorEq, false_imp_iff, iff_true]
    rfl
  · cases found : first.store.groups.find? (·.id == other) with
    | none =>
        have missing := found
        rw [← groups] at missing
        rw [getGroupInfo_missing found, getGroupInfo_missing missing]
        simp only [true_iff, Option.some.injEq, IdText.uuid.injEq]
        rintro rfl
        have closed := outside.closed
        simp [Store.kindOf, found] at closed
    | some group =>
        have sameId : group.id = other := by
          simpa using List.find?_some found
        have again := found
        rw [← groups] at again
        rw [getGroupInfo_found found, getGroupInfo_found again,
          Except.ok.injEq, infoOf_eq_iff, sameId]
        simp only [Option.some.injEq, IdText.uuid.injEq]
        by_cases same : other = groupId
        · subst same
          simp
        · simp [same, outside.memberIds_of_ne same]
  · simp only [Option.some.injEq, reduceCtorEq, false_imp_iff, iff_true]
    rfl

end Calls

inductive ReadRpc where
  | listGroups
  | getGroupInfo (groupId : Option IdText)
  | listMembers (groupId : Option IdText)
  | fetchPublicHistory (req : FetchHistoryRequest)
  | fetchPrivateHistory (req : FetchHistoryRequest)

inductive ReadResponse where
  | groups (groups : List GroupSummary)
  | info (info : GroupInfo)
  | members (members : List MemberInfo)
  | publicMessages (messages : List PublicBusMessage)
  | privateMessages (messages : List PrivateBusMessage)

namespace ReadRpc

open Server

/-- The response to a call, or the status that takes its place. -/
def answer (unreadable : Except Status (List RoleRow))
    (claims : Claims) (server : Server) :
    ReadRpc → Except Status ReadResponse
  | .listGroups =>
      (GroupSvc.listGroups (some claims) server).1.map .groups
  | .getGroupInfo groupId =>
      (GroupSvc.getGroupInfo (some claims) groupId server).1.map .info
  | .listMembers groupId =>
      (GroupSvc.listMembers unreadable (some claims) groupId
        server).1.map .members
  | .fetchPublicHistory req =>
      (MessagingSvc.fetchPublicHistory (some claims) req
        server.store).1.map .publicMessages
  | .fetchPrivateHistory req =>
      (MessagingSvc.fetchPrivateHistory (some claims) req
        server.store).1.map .privateMessages

theorem answer_same_iff (unreadable : Except Status (List RoleRow))
    (claims : Claims) (groupId : Uuid)
    (first second : Server)
    (outside : Server.OutsideOf groupId claims.sub first second)
    (rpc : ReadRpc) :
    rpc.answer unreadable claims first =
        rpc.answer unreadable claims second ↔
      (rpc = .getGroupInfo (some (.uuid groupId)) →
        first.store.memberIds groupId = second.store.memberIds groupId) := by
  cases rpc with
  | listGroups =>
      simp only [answer, (alike_listGroups).result outside, reduceCtorEq,
        false_imp_iff]
  | getGroupInfo text =>
      have infos := getGroupInfo_same_iff text outside
      simp only [getGroupInfo.injEq, ← infos, answer]
      generalize (GroupSvc.getGroupInfo (some claims) text first).1 = left
      generalize (GroupSvc.getGroupInfo (some claims) text second).1 = right
      cases left <;> cases right <;> simp [Except.map]
  | listMembers text =>
      simp only [answer, (alike_listMembers unreadable text).result
        outside, reduceCtorEq, false_imp_iff]
  | fetchPublicHistory req =>
      simp only [answer, (alike_fetchPublicHistory req).result outside.1,
        reduceCtorEq, false_imp_iff]
  | fetchPrivateHistory req =>
      simp only [answer, (alike_fetchPrivateHistory req).result outside.1,
        reduceCtorEq, false_imp_iff]

def friends (members : List GroupMemberRow) : Server where
  store := {
    users := [
      ⟨1, "ann", "Ann", "", true, false, none, ""⟩,
      ⟨2, "bob", "Bob", "", false, false, none, ""⟩,
      ⟨3, "cat", "Cat", "", false, false, none, ""⟩]
    groups := [⟨7, "Chat", "", .priv, .text, "", 0⟩]
    groupMembers := members }

private theorem friends_outside :
    Server.OutsideOf 7 3 (friends [⟨7, 1, "owner"⟩])
      (friends [⟨7, 1, "owner"⟩, ⟨7, 2, "member"⟩]) :=
  ⟨⟨rfl, by decide, by decide, by decide, by decide⟩, rfl⟩

/-- Asking for the group tells the third user who is in it. -/
theorem friends_told :
    Server.OutsideOf 7 3 (friends [⟨7, 1, "owner"⟩])
        (friends [⟨7, 1, "owner"⟩, ⟨7, 2, "member"⟩]) ∧
      (ReadRpc.getGroupInfo (some (.uuid 7))).answer (.ok [])
          ⟨3, 0⟩ (friends [⟨7, 1, "owner"⟩]) ≠
        (ReadRpc.getGroupInfo (some (.uuid 7))).answer (.ok [])
          ⟨3, 0⟩ (friends [⟨7, 1, "owner"⟩, ⟨7, 2, "member"⟩]) := by
  refine ⟨friends_outside, ?_⟩
  intro same
  have infos := Except.ok.inj same
  have counts := congrArg (·.memberIds.length) (ReadResponse.info.inj infos)
  exact absurd counts (by decide)

/-- Asking for the members does not. -/
theorem friends_hidden :
    (ReadRpc.listMembers (some (.uuid 7))).answer (.ok [])
        ⟨3, 0⟩ (friends [⟨7, 1, "owner"⟩]) =
      (ReadRpc.listMembers (some (.uuid 7))).answer (.ok [])
        ⟨3, 0⟩ (friends [⟨7, 1, "owner"⟩, ⟨7, 2, "member"⟩]) :=
  (answer_same_iff (.ok []) ⟨3, 0⟩ 7 _ _ friends_outside
    (.listMembers (some (.uuid 7)))).mpr nofun

end ReadRpc

end Accord
