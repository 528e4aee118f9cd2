import Accord.Library.EventRun
import Accord.Server.Auth.Service
import Accord.Server.Groups.Moderation

/-! Which calls hand out access tokens, and to whom, over runs of the account
and moderation calls. -/

namespace Accord

inductive SessionCall where
  | register (mint : AuthSvc.Mint) (isLocal : Bool)
      (limited : Option ServerError) (req : AuthSvc.RegisterRequest)
  | login (mint : AuthSvc.Mint) (req : AuthSvc.LoginRequest)
  | loginWithKey (mint : AuthSvc.Mint) (req : AuthSvc.KeyLoginRequest)
  | refreshToken (mint : AuthSvc.Mint) (token : String)
  | revokeDevice (now : Int) (token : Option Claims)
      (deviceId : Option IdText)
  | banMember (decision : GuardrailDecision) (token : Option Claims)
      (req : GroupSvc.BanMemberRequest)
  | unbanMember (token : Option Claims) (userId : Option IdText)
  | kickMember (decision : GuardrailDecision) (token : Option Claims)
      (req : GroupSvc.KickMemberRequest)
  | removeMembers (decisions : ℕ → GuardrailDecision)
      (token : Option Claims) (req : GroupSvc.RemoveMembersRequest)

namespace SessionCall

variable (crypto : AuthCrypto) (config : AuthConfig)

def step (store : Store) : SessionCall → Store
  | .register mint isLocal limited req =>
      (AuthSvc.register crypto config mint isLocal limited req store).2
  | .login mint req => (AuthSvc.login crypto mint req store).2
  | .loginWithKey mint req => (AuthSvc.loginWithKey crypto mint req store).2
  | .refreshToken mint token => (AuthSvc.refreshToken mint token store).2
  | .revokeDevice now token deviceId =>
      (AuthSvc.revokeDevice now token deviceId store).2
  | .banMember decision token req =>
      (GroupSvc.banMember decision token req store).2
  | .unbanMember token userId => (GroupSvc.unbanMember token userId store).2
  | .kickMember decision token req =>
      (GroupSvc.kickMember decision token req store).2
  | .removeMembers decisions token req =>
      (GroupSvc.removeMembers decisions token req store).2

/-- The access token a call returns in a state, if it returns one. -/
def accessToken (store : Store) : SessionCall → Option Claims
  | .login mint req =>
      (AuthSvc.login crypto mint req store).1.toOption.map (·.accessToken)
  | .loginWithKey mint req =>
      (AuthSvc.loginWithKey crypto mint req store).1.toOption.map
        (·.accessToken)
  | .refreshToken mint token =>
      (AuthSvc.refreshToken mint token store).1.toOption.map (·.accessToken)
  | _ => none

def isRefresh : SessionCall → Bool
  | .refreshToken _ _ => true
  | _ => false

/-- At every point of the run, no call returns an access token for a user who
is banned there, and no refresh returns one for a device that was revoked in
that state or in an earlier one. -/
def Barred (start : Store) (calls : List SessionCall) : Prop :=
  ∀ before call after, calls = before ++ call :: after → ∀ claims,
    call.accessToken crypto (EventRun.run (step crypto config) start before) =
      some claims →
    (EventRun.run (step crypto config) start before).isBanned claims.sub =
      false ∧
    (call.isRefresh = true → ∀ earlier later, before = earlier ++ later →
      (EventRun.run (step crypto config) start earlier).isRevoked
        claims.deviceId = false)

/-- A refresh token that is presented while it is stored and has not expired
belongs to a user who is not banned and a device that is not revoked. -/
def Entitled (store : Store) : SessionCall → Prop
  | .refreshToken mint token => ∀ row,
      store.lookupRefreshToken token = some row →
      ¬ row.expiresAt < mint.now →
      store.acceptsRefreshToken (AuthSvc.replacement mint row) = true →
      store.isBanned row.userId = false ∧
        store.isRevoked row.deviceId = false
  | _ => True

end SessionCall

namespace AuthSvc

open Effect

variable {store : Store}

/-! What a returned session says about the state it was issued in. -/

private theorem issueSession_sub (mint : Mint) (user : UserRow)
    (deviceName : String) (store : Store) :
    (issueSession mint user deviceName).Post store fun result _ =>
      ∀ session, result = .ok session → session.accessToken.sub = user.id := by
  have anywhere : ∀ {Value : Type} (first : Effect Store Status Value)
      (rest : Value → Effect Store Status LoginResponse) state,
      (∀ value middle, (rest value).Post middle fun result _ =>
        ∀ session, result = .ok session →
          session.accessToken.sub = user.id) →
      Effect.Post (first >>= rest) state fun result _ =>
        ∀ session, result = .ok session →
          session.accessToken.sub = user.id := by
    intro Value first rest state continued
    have trivially : first.Post state fun _ _ => True := trivial
    refine post_bind trivially ?_ fun value middle _ => continued value middle
    intro error middle _ session impossible
    cases impossible
  refine anywhere _ _ _ fun deviceId middle => ?_
  refine anywhere _ _ _ fun _ joined => ?_
  refine anywhere _ _ _ fun _ stored => ?_
  intro session returned
  cases returned
  rfl

private theorem refuseBanned_ok {userId : Uuid} {result : Unit}
    (passed : (refuseBanned userId store).1 = .ok result) :
    store.isBanned userId = false := by
  simpa using check_ok passed

private theorem login_unbanned (crypto : AuthCrypto) (mint : Mint)
    (req : LoginRequest) (store : Store) :
    (login crypto mint req).Post store fun result _ =>
      ∀ session, result = .ok session →
        store.isBanned session.accessToken.sub = false := by
  refine (readOnly_require _ _).post_bind (by simp) fun user _ => ?_
  refine (readOnly_ofExcept _).post_bind (by simp) fun matching _ => ?_
  refine (readOnly_check _ _).post_bind (by simp) fun _ _ => ?_
  refine (readOnly_refuseBanned _).post_bind (by simp) fun _ passed => ?_
  refine (issueSession_sub mint user req.deviceName store).imp ?_
  intro result after owner session returned
  rw [owner session returned]
  exact refuseBanned_ok passed

/-- What a key login has checked when it succeeds. -/
structure KeyChecked (crypto : AuthCrypto) (store : Store)
    (req : KeyLoginRequest) (response : LoginResponse) : Prop where
  length : req.identityPubkey.length = 32
  verified : crypto.verifyChallenge req.challenge =
    .ok (hexEncode req.identityPubkey)
  signed : crypto.verifySignature req.identityPubkey req.challenge
    req.signature = true
  account : ∃ user ∈ store.users,
    user.identityKey = some req.identityPubkey ∧
      store.isBanned user.id = false ∧ response.accessToken.sub = user.id

theorem loginWithKey_checked (crypto : AuthCrypto) (mint : Mint)
    (req : KeyLoginRequest) (store : Store) :
    (loginWithKey crypto mint req).Post store fun result _ =>
      ∀ response, result = .ok response →
        KeyChecked crypto store req response := by
  refine (readOnly_check _ _).post_bind (by simp) fun _ length => ?_
  refine (readOnly_check _ _).post_bind (by simp) fun _ _ => ?_
  refine (readOnly_ofExcept _).post_bind (by simp) fun keyFor answered => ?_
  refine (readOnly_check _ _).post_bind (by simp) fun _ same => ?_
  refine (readOnly_check _ _).post_bind (by simp) fun _ signed => ?_
  refine (readOnly_require _ _).post_bind (by simp) fun user found => ?_
  refine (readOnly_refuseBanned _).post_bind (by simp) fun _ passed => ?_
  refine (issueSession_sub mint user req.deviceName store).imp ?_
  intro result after owner response returned
  have verified : crypto.verifyChallenge req.challenge = .ok keyFor := by
    cases answer : crypto.verifyChallenge req.challenge with
    | ok value =>
        rw [answer] at answered
        cases answered
        rfl
    | error error =>
        rw [answer] at answered
        cases answered
  have registered := require_ok found
  rw [eq_of_beq (check_ok same)] at verified
  exact {
    length := eq_of_beq (check_ok length)
    verified := verified
    signed := check_ok signed
    account := ⟨user, List.mem_of_find?_eq_some registered,
      by simpa using List.find?_some registered, refuseBanned_ok passed,
      owner response returned⟩ }

private theorem loginWithKey_unbanned (crypto : AuthCrypto) (mint : Mint)
    (req : KeyLoginRequest) (store : Store) :
    (loginWithKey crypto mint req).Post store fun result _ =>
      ∀ session, result = .ok session →
        store.isBanned session.accessToken.sub = false := by
  refine (loginWithKey_checked crypto mint req store).imp ?_
  intro result after checked session returned
  obtain ⟨user, _, _, unbanned, owner⟩ := (checked session returned).account
  rw [owner]
  exact unbanned

/-- A refresh succeeds exactly for a stored, unexpired token whose replacement
can be stored, and then answers for the stored user and device. -/
private theorem refreshToken_accessToken (mint : Mint) (token : String)
    (store : Store) (claims : Claims) :
    (refreshToken mint token store).1.toOption.map (·.accessToken) =
        some claims ↔
      ∃ row, store.lookupRefreshToken token = some row ∧
        ¬ row.expiresAt < mint.now ∧
        store.acceptsRefreshToken (replacement mint row) = true ∧
        claims = ⟨row.userId, row.deviceId⟩ := by
  cases found : store.lookupRefreshToken token with
  | none =>
      rw [refreshToken_absent found]
      simp [Except.toOption]
  | some row =>
      by_cases expired : row.expiresAt < mint.now
      · rw [refreshToken_expired found expired]
        simp [Except.toOption, expired]
      · cases accepted : store.acceptsRefreshToken (replacement mint row) with
        | false =>
            obtain ⟨error, refused⟩ :=
              refreshToken_refused found expired accepted
            rw [refused]
            simp [Except.toOption, accepted]
        | true =>
            rw [refreshToken_accepted found expired accepted]
            have current := Int.not_lt.mp expired
            simp only [Except.toOption, Option.map_some, Option.some.injEq,
              exists_eq_left', expired, not_false_eq_true, accepted,
              true_and]
            exact eq_comm

end AuthSvc

/-! What every statement of these calls keeps, every call keeps. -/

namespace SessionCall

structure Kept (invariant : Store → Prop) : Prop where
  audits : ∀ (store : Store) actor action target outcome reason,
    invariant store →
    invariant (store.recordAudit actor action target outcome reason)
  removes : ∀ (store : Store) groupId userId,
    invariant store → invariant (store.removeMember groupId userId)
  bans : ∀ (store : Store) userId bannedBy reason,
    invariant store → invariant (store.banUser userId bannedBy reason)
  unbans : ∀ (store : Store) userId,
    invariant store → invariant (store.unbanUser userId)
  revokes : ∀ (store : Store) userId deviceId now,
    invariant store → invariant (store.revokeDevice userId deviceId now)
  deletes : ∀ (store : Store) token,
    invariant store → invariant (store.deleteRefreshToken token)
  tokens : ∀ row, (Store.storeRefreshToken row).Keeps invariant
  sessions : ∀ mint deviceName (store : Store), invariant store →
    ∀ user ∈ store.users, (AuthSvc.issueSession mint user deviceName).Post
      store fun _ after => invariant after

theorem Kept.step {invariant : Store → Prop} (kept : Kept invariant)
    (crypto : AuthCrypto) (config : AuthConfig) {store : Store}
    (holds : invariant store) (call : SessionCall)
    (creates : ∀ mint isLocal limited req,
      call = .register mint isLocal limited req →
      ∀ row : UserRow, row.id = mint.id →
        (row.isGuest = true → row.isOwner = false) →
        (Store.createUser row).Post store fun _ after => invariant after) :
    invariant (call.step crypto config store) := by
  cases call with
  | register mint isLocal limited req =>
      exact AuthSvc.post_register crypto config mint isLocal limited req
        holds (creates mint isLocal limited req rfl)
  | login mint req =>
      exact AuthSvc.keeps_login crypto mint req
        (kept.sessions mint req.deviceName) store holds
  | loginWithKey mint req =>
      exact AuthSvc.keeps_loginWithKey crypto mint req
        (kept.sessions mint req.deviceName) store holds
  | refreshToken mint token =>
      exact AuthSvc.keeps_refreshToken kept.tokens kept.deletes mint token
        store holds
  | revokeDevice now token deviceId =>
      exact AuthSvc.keeps_revokeDevice kept.revokes now token deviceId store
        holds
  | banMember decision token req =>
      exact GroupSvc.keeps_banMember kept.audits kept.removes kept.bans
        decision token req store holds
  | unbanMember token userId =>
      exact GroupSvc.keeps_unbanMember kept.unbans token userId store holds
  | kickMember decision token req =>
      exact GroupSvc.keeps_kickMember kept.audits kept.removes decision token
        req store holds
  | removeMembers decisions token req =>
      exact GroupSvc.keeps_removeMembers kept.audits kept.removes decisions
        token req store holds

end SessionCall

/-! Revocation outlives every call: rows of devices are only added, and an
update only ever revokes. -/

section Revoked

open Effect

variable {deviceId : Uuid}

def Revoked (deviceId : Uuid) (store : Store) : Prop :=
  store.isRevoked deviceId = true

theorem Revoked.of_devices {before after : Store}
    (revoked : Revoked deviceId before)
    (same : after.devices = before.devices) : Revoked deviceId after := by
  simp only [Revoked, Store.isRevoked, same]
  exact revoked

private theorem keeps_revoked_createDevice (fresh userId : Uuid)
    (name : String) :
    (Store.createDevice fresh userId name).Keeps (Revoked deviceId) := by
  refine (readOnly_check _ _).keeps.bind fun _ => ?_
  refine Keeps.bind (keeps_update ?_) fun _ => (readOnly_pure _).keeps
  intro store revoked
  simp only [Revoked, Store.isRevoked] at revoked ⊢
  rw [List.any_append, revoked, Bool.true_or]

private theorem keeps_revoked_storeRefreshToken (row : RefreshRow) :
    (Store.storeRefreshToken row).Keeps (Revoked deviceId) := by
  refine (readOnly_check _ _).keeps.bind fun _ => ?_
  refine (readOnly_check _ _).keeps.bind fun _ => ?_
  exact keeps_update fun store revoked => revoked.of_devices rfl

private theorem keeps_revoked_joinDefaultChannel (user : UserRow) :
    (AuthSvc.joinDefaultChannel user).Keeps (Revoked deviceId) := by
  simp only [AuthSvc.joinDefaultChannel]
  split
  · exact (readOnly_pure _).keeps
  · refine Keeps.attempt ((readOnly_check _ _).keeps.bind fun _ => ?_)
    apply keeps_update
    intro store revoked
    apply revoked.of_devices
    split <;> rfl

private theorem kept_revoked : SessionCall.Kept (Revoked deviceId) where
  audits := fun _ _ _ _ _ _ revoked => revoked.of_devices rfl
  removes := fun _ _ _ revoked => revoked.of_devices rfl
  bans := by
    intro store userId bannedBy reason revoked
    apply revoked.of_devices
    simp only [Store.banUser]
    split <;> rfl
  unbans := fun _ _ revoked => revoked.of_devices rfl
  revokes := fun _ userId other now revoked =>
    Store.isRevoked_revokeDevice revoked userId other now
  deletes := fun _ _ revoked => revoked.of_devices rfl
  tokens := keeps_revoked_storeRefreshToken
  sessions := fun mint deviceName store revoked user _ =>
    AuthSvc.keeps_issueSession keeps_revoked_createDevice
      keeps_revoked_storeRefreshToken mint deviceName
      (keeps_revoked_joinDefaultChannel user) store revoked

end Revoked

namespace SessionCall

variable (crypto : AuthCrypto) (config : AuthConfig)

private theorem step_revoked (deviceId : Uuid) (store : Store)
    (call : SessionCall)
    (revoked : Revoked deviceId store) :
    Revoked deviceId (step crypto config store call) := by
  apply kept_revoked.step crypto config revoked call
  intro mint isLocal limited req _ row _ _
  refine (Effect.readOnly_check _ _).post_bind (fun _ _ => revoked) ?_
  intro _ _
  exact revoked.of_devices rfl

private theorem run_revoked (deviceId : Uuid) (store : Store)
    (calls : List SessionCall) (revoked : Revoked deviceId store) :
    Revoked deviceId (EventRun.run (step crypto config) store calls) := by
  induction calls generalizing store with
  | nil => exact revoked
  | cons call rest induction =>
      exact induction _ (step_revoked crypto config deviceId store call revoked)

private theorem unbanned_of_returned {store : Store} {claims : Claims}
    {effect : Effect Store Status AuthSvc.LoginResponse}
    (unbanned : effect.Post store fun result _ => ∀ session,
      result = .ok session →
        store.isBanned session.accessToken.sub = false)
    (returned : (effect store).1.toOption.map (·.accessToken) =
      some claims) :
    store.isBanned claims.sub = false := by
  unfold Effect.Post at unbanned
  cases result : (effect store).1 with
  | error error =>
      rw [result] at returned
      cases returned
  | ok session =>
      rw [result] at returned
      cases returned
      exact unbanned session result

private theorem accessToken_unbanned {store : Store} {call : SessionCall}
    {claims : Claims} (other : call.isRefresh = false)
    (returned : call.accessToken crypto store = some claims) :
    store.isBanned claims.sub = false := by
  cases call with
  | login mint req =>
      exact unbanned_of_returned
        (AuthSvc.login_unbanned crypto mint req store) returned
  | loginWithKey mint req =>
      exact unbanned_of_returned
        (AuthSvc.loginWithKey_unbanned crypto mint req store) returned
  | refreshToken => cases other
  | _ => cases returned

/-- Banned users and revoked devices get no session exactly in the runs whose
refreshes are all entitled to one. -/
theorem barred_iff_entitled (start : Store) (calls : List SessionCall) :
    Barred crypto config start calls ↔
      EventRun.Each (step crypto config) Entitled start calls := by
  rw [EventRun.each_iff_forall]
  constructor
  · intro barred before call after split
    cases call with
    | refreshToken mint token =>
        intro row found current accepted
        have answered := (AuthSvc.refreshToken_accessToken mint token _
          ⟨row.userId, row.deviceId⟩).mpr ⟨row, found, current, accepted, rfl⟩
        have both := barred before _ after split _ answered
        exact ⟨both.1, both.2 rfl before [] (List.append_nil _).symm⟩
    | _ => trivial
  · intro entitled before call after split claims returned
    have lawful := entitled before call after split
    cases refresh : call.isRefresh with
    | false =>
        exact ⟨accessToken_unbanned crypto refresh returned,
          fun impossible => by cases impossible⟩
    | true =>
        cases call with
        | refreshToken mint token =>
            obtain ⟨row, found, current, accepted, rfl⟩ :=
              (AuthSvc.refreshToken_accessToken mint token _ _).mp returned
            have both := lawful row found current accepted
            refine ⟨both.1, ?_⟩
            intro _ earlier later parts
            rw [Bool.eq_false_iff]
            intro revoked
            have still := run_revoked crypto config row.deviceId _ later
              revoked
            rw [← EventRun.run_append, ← parts] at still
            exact absurd still (by rw [Revoked, both.2]; decide)
        | _ => cases refresh

def signedInStore : Store where
  users := [
    ⟨1, "owner", "Owner", "", true, false, none, ""⟩,
    ⟨2, "member", "Member", "", false, false, none, ""⟩]
  devices := [⟨20, 2, "phone", none⟩]
  refreshTokens := [⟨"first", 2, 20, 1000⟩]

def noCrypto : AuthCrypto where
  hashPassword := fun _ => .error (.passwordHash "unused")
  verifyPasswordHash := fun _ _ => .error (.passwordHash "unused")
  verifyChallenge := fun _ => .error .unauthenticated
  verifySignature := fun _ _ _ => false

def refreshAfterBan : List SessionCall := [
  .banMember .allow (some ⟨1, 10⟩) ⟨some (.uuid 2), "spam"⟩,
  .refreshToken ⟨100, 0, "second"⟩ "first"]

def refreshAfterRevocation : List SessionCall := [
  .revokeDevice 50 (some ⟨2, 20⟩) (some (.uuid 20)),
  .refreshToken ⟨100, 0, "second"⟩ "first"]

theorem refresh_not_barred :
    ¬ Barred noCrypto ⟨false, false⟩ signedInStore refreshAfterBan ∧
      ¬ Barred noCrypto ⟨false, false⟩ signedInStore
        refreshAfterRevocation := by
  constructor
  · intro barred
    have both := barred
      [.banMember .allow (some ⟨1, 10⟩) ⟨some (.uuid 2), "spam"⟩]
      (.refreshToken ⟨100, 0, "second"⟩ "first") [] rfl ⟨2, 20⟩ (by decide)
    exact absurd both.1 (by decide)
  · intro barred
    have both := barred
      [.revokeDevice 50 (some ⟨2, 20⟩) (some (.uuid 20))]
      (.refreshToken ⟨100, 0, "second"⟩ "first") [] rfl ⟨2, 20⟩ (by decide)
    exact absurd (both.2 rfl _ [] (List.append_nil _).symm) (by decide)

end SessionCall

end Accord
