import Accord.Library.EventRun
import Accord.Server.Calls

/-! Three permission bits that no handler asks for: sending to and reading a
public channel, and creating a private group.  What is enforced is what the
handlers check, so the bits hold exactly where everybody who passes those
checks happens to have them. -/

namespace Accord

namespace ServerCall

/-- Judged against the state before the call: a stored message has a sender
who may send, the history of a channel goes to a caller who may view
channels, and a new private group has a creator who may create one, unless
they are a guest. -/
def Enforced (server : Server) : ServerCall → Prop
  | .publicMessage bus draw fresh userId m =>
      ∀ row ∈ (MessagingSvc.handlePublicMessage bus draw fresh userId m
          server).2.store.publicMessages,
        row ∉ server.store.publicMessages →
        (Authz.effective server.store row.senderId).allows
          Permissions.sendMessages = true
  | .publicHistory token req => ∀ claims groupId messages,
      token = some claims → req.groupId.bind IdText.parse = some groupId →
      server.store.kindOf groupId = some .pub →
      (MessagingSvc.fetchPublicHistory token req server.store).1 =
        .ok messages →
      (Authz.effective server.store claims.sub).allows
        Permissions.viewChannels = true
  | .group (.createPrivateGroup bus token req) => ∀ claims groupId,
      token = some claims →
      server.store.isUserGuest claims.sub = false →
      server.store.hasGroup groupId = false →
      (GroupSvc.createPrivateGroup bus token req server).2.store.hasGroup
        groupId = true →
      (Authz.effective server.store claims.sub).allows
        Permissions.createPrivateChat = true
  | _ => True

end ServerCall

namespace MessagingSvc

open Effect

variable {store : Store} {draw : RowDraw} {fresh userId groupId : Uuid}
  {m : SendPublicMessage}

/-- The checks of a public send: a text, a participant, a client id that is
new, and a row that the database accepts. -/
def admitsPublic (draw : RowDraw) (fresh userId groupId : Uuid)
    (m : SendPublicMessage) (store : Store) : Bool :=
  trim m.content != "" && participates store groupId userId &&
    (store.findPublicMessage groupId
      (sentRow draw fresh userId groupId m).clientMessageId).isNone &&
    Store.storesPublicMessage (sentRow draw fresh userId groupId m) store

private theorem insertSent_rows (draw : RowDraw) (fresh userId groupId : Uuid)
    (m : SendPublicMessage) (store : Store) :
    (Store.insertPublicMessage draw groupId userId (trim m.content)
        ((m.clientMessageId.bind IdText.parse).getD fresh)
        store).2.publicMessages =
      if (store.findPublicMessage groupId
            (sentRow draw fresh userId groupId m).clientMessageId).isNone &&
          Store.storesPublicMessage (sentRow draw fresh userId groupId m)
            store then
        store.publicMessages ++ [sentRow draw fresh userId groupId m]
      else
        store.publicMessages := by
  rw [Store.insertPublicMessage_store]
  change (Store.keepPublicMessage (sentRow draw fresh userId groupId m)
    store).2.publicMessages = _
  cases found : store.findPublicMessage groupId
      (sentRow draw fresh userId groupId m).clientMessageId with
  | some stored =>
      have kept : Store.keepPublicMessage
          (sentRow draw fresh userId groupId m) store =
            (.ok stored, store) := Store.keepPublicMessage_of_stored found
      rw [kept]
      rfl
  | none =>
      have new : store.findPublicMessage
          (sentRow draw fresh userId groupId m).groupId
          (sentRow draw fresh userId groupId m).clientMessageId =
            none := found
      cases accepted : Store.storesPublicMessage
          (sentRow draw fresh userId groupId m) store with
      | true =>
          rw [Store.keepPublicMessage_of_accepted new accepted]
          rfl
      | false =>
          obtain ⟨error, refused⟩ :=
            Store.keepPublicMessage_of_refused new accepted
          rw [refused]
          rfl

private theorem acceptPublicMessage_rows
    (parsed : m.groupId.bind IdText.parse = some groupId) :
    (acceptPublicMessage draw fresh userId m store).2.publicMessages =
      if admitsPublic draw fresh userId groupId m store then
        store.publicMessages ++ [sentRow draw fresh userId groupId m]
      else
        store.publicMessages := by
  simp only [acceptPublicMessage]
  rw [bind_of_ok (requireGroupId_of_parsed parsed), check_bind]
  cases written : trim m.content != "" with
  | false => simp [admitsPublic, written]
  | true =>
      cases takesPart : participates store groupId userId with
      | false =>
          obtain ⟨error, refused⟩ := requireParticipant_refused takesPart
          rw [if_pos rfl, bind_of_error refused]
          simp [admitsPublic, written, takesPart]
      | true =>
          have passed := requireParticipant_of_participates takesPart
          rw [if_pos rfl, bind_of_ok passed, bind_pure_state,
            insertSent_rows]
          simp only [admitsPublic, written, takesPart, Bool.true_and]
          split <;> rfl

private theorem acceptPublicMessage_unparsed
    (unparsed : m.groupId.bind IdText.parse = none) :
    (acceptPublicMessage draw fresh userId m store).2 = store := by
  have refused : ∃ error, requireGroupId m.groupId store =
      (.error error, store) := by
    cases text : m.groupId with
    | none => exact ⟨_, rfl⟩
    | some value =>
        cases value with
        | uuid id =>
            rw [text] at unparsed
            cases unparsed
        | malformed => exact ⟨_, rfl⟩
  obtain ⟨error, ran⟩ := refused
  simp only [acceptPublicMessage]
  rw [bind_of_error ran]

private theorem sentRow_new
    (admitted : admitsPublic draw fresh userId groupId m store = true) :
    sentRow draw fresh userId groupId m ∉ store.publicMessages := by
  simp only [admitsPublic, Store.storesPublicMessage, Store.handsOutPublic,
    Bool.and_eq_true, List.all_eq_true, decide_eq_true_eq] at admitted
  intro listed
  have below := admitted.2.2.1 _ listed
  exact Nat.lt_irrefl _ below

private theorem fetchPublicHistory_ok_iff {claims : Claims}
    {req : FetchHistoryRequest}
    (parsed : req.groupId.bind IdText.parse = some groupId) :
    (∃ messages, (fetchPublicHistory (some claims) req store).1 =
        .ok messages) ↔
      participates store groupId claims.sub = true := by
  have named : orStatus (requireGroupId req.groupId) store =
      (.ok groupId, store) :=
    orStatus_of_ok (requireGroupId_of_parsed parsed)
  simp only [fetchPublicHistory]
  rw [bind_of_ok (authenticate_some _ _), bind_of_ok named]
  cases takesPart : participates store groupId claims.sub with
  | true =>
      have passed :=
        orStatus_of_ok (requireParticipant_of_participates takesPart)
      rw [bind_of_ok passed]
      exact ⟨fun _ => rfl, fun _ => ⟨_, rfl⟩⟩
  | false =>
      obtain ⟨error, refused⟩ := requireParticipant_refused takesPart
      rw [bind_of_error (orStatus_of_error refused)]
      simp

end MessagingSvc

namespace GroupSvc

open Effect

variable {server : Server} {bus : Bus} {req : CreatePrivateGroupRequest}

def HasGroups (groups : List GroupRow) (store : Store) : Prop :=
  store.groups = groups

private theorem keeps_hasGroups_addMember (groups : List GroupRow)
    (groupId userId : Uuid) (role : String) :
    (Store.addMember groupId userId role).Keeps (HasGroups groups) := by
  refine (readOnly_check _ _).keeps.bind fun _ => keeps_update ?_
  intro store same
  split <;> exact same

private theorem keeps_hasGroups_enqueueInbox (groups : List GroupRow)
    (device : Uuid) (kind : InboxKind) (group : Uuid) (payload : Bytes) :
    (Store.enqueueInbox device kind group payload).Keeps
      (HasGroups groups) := by
  refine (readOnly_check _ _).keeps.bind fun _ => keeps_update ?_
  exact fun _ same => same

/-- What follows the statement that creates the group adds no other. -/
private theorem createPrivateGroup_groups (bus : Bus) (claims : Claims)
    {groupId : Uuid}
    (parsed : req.groupId.bind IdText.parse = some groupId)
    {server : Server} {groups : List GroupRow}
    (created : (Store.createPrivateGroupWithId groupId
      (privateGroupName req.name) server.store).2.groups = groups) :
    (createPrivateGroup bus (some claims) req server).2.store.groups =
      groups := by
  have adds := keeps_hasGroups_addMember groups groupId
  have adopted : (adoptGroup claims.sub groupId req.name req.memberIds).Post
      server.store fun _ after => HasGroups groups after := by
    have first : (orStatus (Store.createPrivateGroupWithId groupId
        (privateGroupName req.name))).Post server.store fun _ after =>
          HasGroups groups after := created
    apply post_bind first (fun _ _ same => same)
    intro _ after same
    refine ((adds _ _).mapError _).post_bind same (fun _ _ same => same) ?_
    intro _ joined same
    apply keeps_forEach _ req.memberIds joined same
    intro member
    refine (readOnly_ofOption _ _).keeps.bind fun userId => ?_
    exact (adds userId "member").mapError _
  have kept : (createPrivateGroup bus (some claims) req).Post server
      fun _ after => Server.OnStore (HasGroups groups) after := by
    apply post_bind_of_ok (authenticate_some claims server)
    apply post_bind_of_ok
      (Server.onStore_of_ok (requireGroupId_of_parsed parsed))
    apply post_bind (Server.post_onStore adopted) (fun _ _ same => same)
    intro _ after same
    refine (keeps_forEach (MlsRelaySvc.keeps_relayWelcome
      (keeps_hasGroups_enqueueInbox _) bus groupId) req.welcomes).post_bind
      same (fun _ _ same => same) ?_
    intro _ welcomed same
    exact same
  exact kept

theorem createPrivateGroup_refused {token : Option Claims}
    (refused : ∀ claims groupId, token = some claims →
      req.groupId.bind IdText.parse ≠ some groupId) :
    (createPrivateGroup bus token req server).2 = server := by
  cases token with
  | none => rfl
  | some claims =>
      simp only [createPrivateGroup]
      rw [bind_of_ok (authenticate_some claims server)]
      cases text : req.groupId with
      | none => rfl
      | some value =>
          cases value with
          | uuid id =>
              rw [text] at refused
              exact absurd rfl (refused claims id rfl)
          | malformed => rfl

private theorem hasGroup_createPrivateGroupWithId (groupId other : Uuid)
    (name : String) (store : Store) :
    (Store.createPrivateGroupWithId groupId name store).2.hasGroup other =
        true ↔
      store.hasGroup other = true ∨ other = groupId := by
  simp only [Store.createPrivateGroupWithId, check_bind]
  cases present : store.hasGroup groupId with
  | true =>
      simp only [Bool.not_true, Bool.false_eq_true, if_false]
      constructor
      · exact .inl
      · rintro (known | rfl)
        · exact known
        · exact present
  | false =>
      simp only [Bool.not_false, if_true, Store.hasGroup, update,
        List.any_append, List.any_cons, List.any_nil, Bool.or_false,
        Bool.or_eq_true, beq_iff_eq]
      exact or_congr_right eq_comm

private theorem hasGroup_createPrivateGroup (bus : Bus) (claims : Claims)
    {groupId : Uuid}
    (parsed : req.groupId.bind IdText.parse = some groupId)
    (server : Server) (other : Uuid) :
    (createPrivateGroup bus (some claims) req server).2.store.hasGroup other =
        true ↔
      server.store.hasGroup other = true ∨ other = groupId := by
  rw [← hasGroup_createPrivateGroupWithId groupId other
    (privateGroupName req.name) server.store]
  simp only [Store.hasGroup]
  rw [createPrivateGroup_groups bus claims parsed rfl]

end GroupSvc

namespace ServerCall

open MessagingSvc

/-- Whoever passes the handler's own checks has the bit that nobody asks
for. -/
def Granted (server : Server) : ServerCall → Prop
  | .publicMessage _ draw fresh userId m => ∀ groupId,
      m.groupId.bind IdText.parse = some groupId →
      admitsPublic draw fresh userId groupId m server.store = true →
      (Authz.effective server.store userId).allows
        Permissions.sendMessages = true
  | .publicHistory token req => ∀ claims groupId,
      token = some claims → req.groupId.bind IdText.parse = some groupId →
      server.store.kindOf groupId = some .pub →
      participates server.store groupId claims.sub = true →
      (Authz.effective server.store claims.sub).allows
        Permissions.viewChannels = true
  | .group (.createPrivateGroup _ token req) => ∀ claims groupId,
      token = some claims → req.groupId.bind IdText.parse = some groupId →
      server.store.isUserGuest claims.sub = false →
      server.store.hasGroup groupId = false →
      (Authz.effective server.store claims.sub).allows
        Permissions.createPrivateChat = true
  | _ => True

variable (server : Server)

private theorem publicMessage_enforced_iff (bus : Bus) (draw : RowDraw)
    (fresh userId : Uuid) (m : SendPublicMessage) :
    Enforced server (.publicMessage bus draw fresh userId m) ↔
      Granted server (.publicMessage bus draw fresh userId m) := by
  simp only [Enforced, Granted]
  rw [handlePublicMessage_store]
  constructor
  · intro enforced groupId parsed admitted
    apply enforced (sentRow draw fresh userId groupId m)
      _ (sentRow_new admitted)
    rw [acceptPublicMessage_rows parsed, if_pos admitted]
    simp
  · intro granted row listed new
    cases parsed : m.groupId.bind IdText.parse with
    | none =>
        rw [acceptPublicMessage_unparsed parsed] at listed
        exact absurd listed new
    | some groupId =>
        rw [acceptPublicMessage_rows parsed] at listed
        split at listed
        · rename_i admitted
          rcases List.mem_append.mp listed with before | added
          · exact absurd before new
          · rw [List.mem_singleton.mp added]
            exact granted groupId parsed admitted
        · exact absurd listed new

private theorem publicHistory_enforced_iff (token : Option Claims)
    (req : FetchHistoryRequest) :
    Enforced server (.publicHistory token req) ↔
      Granted server (.publicHistory token req) := by
  simp only [Enforced, Granted]
  constructor
  · rintro enforced claims groupId rfl parsed isPublic takesPart
    obtain ⟨messages, returned⟩ :=
      (fetchPublicHistory_ok_iff parsed).mpr takesPart
    exact enforced claims groupId messages rfl parsed isPublic returned
  · rintro granted claims groupId messages rfl parsed isPublic returned
    exact granted claims groupId rfl parsed isPublic
      ((fetchPublicHistory_ok_iff parsed).mp ⟨messages, returned⟩)

private theorem createPrivateGroup_enforced_iff (bus : Bus)
    (token : Option Claims)
    (req : GroupSvc.CreatePrivateGroupRequest) :
    Enforced server (.group (.createPrivateGroup bus token req)) ↔
      Granted server (.group (.createPrivateGroup bus token req)) := by
  simp only [Enforced, Granted]
  constructor
  · rintro enforced claims groupId rfl parsed ordinary new
    apply enforced claims groupId rfl ordinary new
    exact (GroupSvc.hasGroup_createPrivateGroup bus claims parsed server
      groupId).mpr (.inr rfl)
  · rintro granted claims groupId rfl ordinary new created
    cases parsed : req.groupId.bind IdText.parse with
    | none =>
        rw [GroupSvc.createPrivateGroup_refused
          (by rintro _ _ _ named; rw [parsed] at named; cases named),
          new] at created
        cases created
    | some named =>
        rcases (GroupSvc.hasGroup_createPrivateGroup bus claims parsed server
          groupId).mp created with present | rfl
        · rw [new] at present
          cases present
        · exact granted claims groupId rfl parsed ordinary new

private theorem enforced_iff_granted (call : ServerCall) :
    Enforced server call ↔ Granted server call := by
  cases call with
  | publicMessage bus draw fresh userId m =>
      exact publicMessage_enforced_iff server bus draw fresh userId m
  | publicHistory token req =>
      exact publicHistory_enforced_iff server token req
  | group call =>
      cases call with
      | createPrivateGroup bus token req =>
          exact createPrivateGroup_enforced_iff server bus token req
      | _ => exact Iff.rfl
  | _ => exact Iff.rfl

/-- The bits are enforced over exactly the runs in which everybody who passes
the handlers' own checks has them. -/
theorem enforced_iff_all_granted (crypto : AuthCrypto) (config : AuthConfig)
    (calls : List ServerCall) :
    EventRun.Each (step crypto config) Enforced server calls ↔
      EventRun.Each (step crypto config) Granted server calls := by
  constructor
  · intro enforced
    exact enforced.imp fun server call => (enforced_iff_granted server call).mp
  · intro granted
    exact granted.imp fun server call => (enforced_iff_granted server call).mpr

/-- An owner, a moderator who may manage roles and a plain member. -/
def forumStore : Store where
  users := [⟨1, "owner", "Owner", "", true, false, none, ""⟩,
    ⟨2, "mod", "Mod", "", false, false, none, ""⟩,
    ⟨3, "member", "Member", "", false, false, none, ""⟩]
  groups := [⟨7, "general", "", .pub, .text, "", 0⟩]
  groupMembers := [⟨7, 1, "owner"⟩, ⟨7, 3, "member"⟩]
  roles := [⟨20, "@everyone", Permissions.defaultEveryone.bits, 0, true, "",
      "", false, false⟩,
    ⟨21, "moderator", Permissions.manageRoles.bits, 1, false, "", "", false,
      false⟩]
  memberRoles := [⟨2, 21⟩]

/-- A moderator takes every permission from everyone, and the member goes on
as before: sends, reads and creates a private group. -/
def mutedForum : List ServerCall := [
  .role (some ⟨2, 20⟩) (.updateRole
    { id := .uuid 20, name := "@everyone", permissions := "0" }),
  .publicMessage (fun _ => .ok ()) ⟨900, 1, 1500⟩ 70 3
    ⟨some (.uuid 7), "still here", none⟩,
  .publicHistory (some ⟨3, 30⟩) ⟨some (.uuid 7), 0, 0⟩,
  .group (.createPrivateGroup (fun _ => .ok ()) (some ⟨3, 30⟩)
    ⟨some (.uuid 8), "", [], []⟩)]

theorem mutedForum_unenforced :
    ¬ EventRun.Each (step SessionCall.noCrypto ⟨true, true⟩) Enforced
      { store := forumStore } mutedForum := by
  rintro ⟨_, sent, _⟩
  have allowed := sent ⟨900, 7, 3, "still here", 70, 1, 1500⟩
    (by decide) (by decide)
  exact absurd allowed (by decide)

end ServerCall

end Accord
