import Accord.Server.Auth.Jwt
import Accord.Server.Calls

/-! Logins by key over the history of a server: which tokens it has issued,
to what purpose and when, and which of them a login accepts. -/

namespace Accord

namespace AuthSvc

def requestChallenge (keys : JwtKeys) (now : ℕ) (nonce : Uuid)
    (identityPubkey : List UInt8) : Effect Store Status String := do
  Effect.check (fun _ => identityPubkey.length == 32)
    (ServerError.invalidArgument "identity key must be 32 bytes" : Status)
  return keys.issueChallenge now (hexEncode identityPubkey) nonce.text

end AuthSvc

inductive Issue where
  | access (userId deviceId : Uuid)
  | challenge (identityPubkey : List UInt8) (nonce : Uuid)

def Issue.sign (keys : JwtKeys) (now : ℕ) : Issue → String
  | .access userId deviceId => keys.issue now userId deviceId
  | .challenge identityPubkey nonce =>
      keys.issueChallenge now (AuthSvc.hexEncode identityPubkey) nonce.text

structure IssuedToken where
  issue : Issue
  issuedAt : ℕ
  token : String

structure TokenServer where
  server : Server
  issued : List IssuedToken := []

inductive TokenCall where
  | requestChallenge (nonce : Uuid) (identityPubkey : List UInt8)
  | call (call : ServerCall)

structure TokenEvent where
  now : ℕ
  call : TokenCall

namespace TokenServer

open AuthSvc

variable (keys : JwtKeys) (crypto : AuthCrypto) (config : AuthConfig)

def recorded (state : TokenServer) (issue : Issue) (now : ℕ)
    (token : String) : TokenServer :=
  { state with issued := state.issued ++ [⟨issue, now, token⟩] }

/-- The state with the token of the session that a call returns. -/
def withSession (now : ℕ) (call : ServerCall) (state : TokenServer) :
    TokenServer :=
  match call with
  | .session call =>
      match call.accessToken (keys.crypto crypto now) state.server.store with
      | some claims =>
          state.recorded (.access claims.sub claims.deviceId) now
            (keys.issue now claims.sub claims.deviceId)
      | none => state
  | _ => state

def step (state : TokenServer) (event : TokenEvent) : TokenServer :=
  match event.call with
  | .requestChallenge nonce identityPubkey =>
      match (requestChallenge keys event.now nonce identityPubkey
          state.server.store).1 with
      | .ok token =>
          state.recorded (.challenge identityPubkey nonce) event.now token
      | .error _ => state
  | .call call =>
      { state.withSession keys crypto event.now call with
        server := call.step (keys.crypto crypto event.now) config
          state.server }

/-- A key login whose challenge verifies presents one that was issued. -/
def Unforged (state : TokenServer) (event : TokenEvent) : Prop :=
  match event.call with
  | .call (.session (.loginWithKey _ req)) =>
      (keys.decode req.challenge).isSome = true →
        ∃ issued ∈ state.issued, issued.token = req.challenge
  | _ => True

/-- The challenge was issued for the key that is presented and has not
expired, the signature over it is the key's, and the session is that of an
account with this key that is not banned. -/
structure Entitled (state : TokenServer) (now : ℕ) (req : KeyLoginRequest)
    (response : LoginResponse) : Prop where
  length : req.identityPubkey.length = 32
  issued : ∃ nonce, ∃ issued ∈ state.issued,
    issued.issue = .challenge req.identityPubkey nonce ∧
      issued.token = req.challenge ∧
      now ≤ issued.issuedAt + Jwt.challengeTtlSecs + Jwt.leeway
  signed : crypto.verifySignature req.identityPubkey req.challenge
    req.signature = true
  account : ∃ user ∈ state.server.store.users,
    user.identityKey = some req.identityPubkey ∧
      state.server.store.isBanned user.id = false ∧
      response.accessToken.sub = user.id

/-- A key login succeeds only for those who are entitled to it. -/
def LoginSound (state : TokenServer) (event : TokenEvent) : Prop :=
  match event.call with
  | .call (.session (.loginWithKey mint req)) => ∀ response,
      (loginWithKey (keys.crypto crypto event.now) mint req
        state.server.store).1 = .ok response →
      state.Entitled crypto event.now req response
  | _ => True

/-- No token is ever accepted for the other purpose. -/
def Separated (state : TokenServer) : Prop :=
  ∀ issued ∈ state.issued, ∀ now,
    match issued.issue with
    | .access _ _ =>
        keys.verifyChallenge now issued.token = .error .unauthenticated
    | .challenge _ _ =>
        keys.verify now issued.token = .error .unauthenticated

/-- What is recorded is what was signed. -/
def Recorded (state : TokenServer) : Prop :=
  ∀ issued ∈ state.issued,
    issued.token = issued.issue.sign keys issued.issuedAt

end TokenServer

namespace AuthSvc

open Effect

private theorem loginWithKey_of_verified {crypto : AuthCrypto} {mint : Mint}
    {req : KeyLoginRequest} {store : Store} {user : UserRow}
    (keyLength : req.identityPubkey.length = 32)
    (signatureLength : req.signature.length = 64)
    (verified : crypto.verifyChallenge req.challenge =
      .ok (hexEncode req.identityPubkey))
    (signed : crypto.verifySignature req.identityPubkey req.challenge
      req.signature = true)
    (registered : store.findUserByIdentity req.identityPubkey = some user)
    (unbanned : store.isBanned user.id = false) :
    loginWithKey crypto mint req store =
      issueSession mint user req.deviceName store := by
  have answer : (ofExcept ((crypto.verifyChallenge req.challenge).mapError
      ServerError.toStatus) : Effect Store Status String) store =
        (.ok (hexEncode req.identityPubkey), store) := by
    rw [verified]
    rfl
  have found : (require (fun store : Store =>
      store.findUserByIdentity req.identityPubkey)
        ServerError.unauthenticated.toStatus :
          Effect Store Status UserRow) store = (.ok user, store) := by
    simp only [require, registered]
  simp only [loginWithKey, refuseBanned]
  rw [check_bind, if_pos (by simpa using keyLength), check_bind,
    if_pos (by simpa using signatureLength), bind_of_ok answer, check_bind,
    if_pos (by simp), check_bind, if_pos signed, bind_of_ok found,
    check_bind, if_pos (by simpa using unbanned)]

end AuthSvc

namespace TokenServer

variable {keys : JwtKeys} {crypto : AuthCrypto} {config : AuthConfig}
  {state : TokenServer}

theorem Recorded.recorded (holds : state.Recorded keys) {issue : Issue}
    {now : ℕ} {token : String} (signed : token = issue.sign keys now) :
    (state.recorded issue now token).Recorded keys := by
  intro issued listed
  rcases List.mem_append.mp listed with old | new
  · exact holds issued old
  · rw [List.mem_singleton.mp new]
    exact signed

private theorem Recorded.withSession (holds : state.Recorded keys) (now : ℕ)
    (call : ServerCall) :
    (state.withSession keys crypto now call).Recorded keys := by
  simp only [TokenServer.withSession]
  split
  · split
    · exact holds.recorded rfl
    · exact holds
  · exact holds

theorem Recorded.step (holds : state.Recorded keys) (event : TokenEvent) :
    (state.step keys crypto config event).Recorded keys := by
  simp only [TokenServer.step]
  split
  · split
    · rename_i nonce identityPubkey _ token returned
      obtain ⟨_, _, _, signed⟩ := Effect.bind_ok returned
      cases signed
      exact holds.recorded rfl
    · exact holds
  · exact holds.withSession event.now _

section Opens

variable (opens : keys.Opens) (holds : state.Recorded keys)

include opens holds

theorem Recorded.separated : state.Separated keys := by
  intro issued listed now
  have signed := holds issued listed
  cases purpose : issued.issue with
  | access userId deviceId =>
      rw [purpose] at signed
      rw [signed]
      exact JwtKeys.verifyChallenge_issue opens _ _ _ _
  | challenge identityPubkey nonce =>
      rw [purpose] at signed
      rw [signed]
      exact JwtKeys.verify_issueChallenge opens _ _ _ _

/-- A challenge that is accepted was issued for the key it is accepted for, in
time. -/
theorem Recorded.accepted {now : ℕ} {token : String}
    {identityPubkey : List UInt8}
    (unforged : (keys.decode token).isSome = true →
      ∃ issued ∈ state.issued, issued.token = token)
    (accepted : keys.verifyChallenge now token =
      .ok (AuthSvc.hexEncode identityPubkey)) :
    ∃ nonce, ∃ issued ∈ state.issued,
      issued.issue = .challenge identityPubkey nonce ∧
        issued.token = token ∧
        now ≤ issued.issuedAt + Jwt.challengeTtlSecs + Jwt.leeway := by
  obtain ⟨issued, listed, rfl⟩ :=
    unforged (keys.decodes_of_verifyChallenge accepted)
  have signed := holds issued listed
  cases purpose : issued.issue with
  | access userId deviceId =>
      have separated := holds.separated opens issued listed now
      simp only [purpose] at separated
      rw [separated] at accepted
      cases accepted
  | challenge key nonce =>
      rw [purpose, Issue.sign] at signed
      rw [signed, JwtKeys.verifyChallenge_issueChallenge opens] at accepted
      split at accepted
      · cases accepted
      · rename_i current
        have same : AuthSvc.hexEncode key =
            AuthSvc.hexEncode identityPubkey := Except.ok.inj accepted
        rw [AuthSvc.hexEncode_injective same] at purpose
        exact ⟨nonce, issued, listed, purpose, rfl, by omega⟩

private theorem Recorded.loginSound {event : TokenEvent}
    (unforged : state.Unforged keys event) :
    state.LoginSound keys crypto event := by
  simp only [LoginSound]
  split
  · rename_i mint req isLogin
    intro response succeeded
    simp only [Unforged, isLogin] at unforged
    have checked :=
      AuthSvc.loginWithKey_checked _ mint req _ response succeeded
    exact {
      length := checked.length
      issued := holds.accepted opens unforged checked.verified
      signed := checked.signed
      account := checked.account }
  · trivial

end Opens

/-- Over every history of the server in which no token is forged, key logins
succeed only for those entitled to them, and no token is accepted for the
other purpose. -/
theorem key_login_sound (opens : keys.Opens) (start : Server)
    (events : List TokenEvent)
    (unforged : EventRun.Each (step keys crypto config) (Unforged keys)
      ⟨start, []⟩ events) :
    EventRun.Each (step keys crypto config) (LoginSound keys crypto)
        ⟨start, []⟩ events ∧
      EventRun.Always (step keys crypto config) (Separated keys)
        ⟨start, []⟩ events := by
  have always : EventRun.Always (step keys crypto config) (Recorded keys)
      ⟨start, []⟩ events := by
    apply EventRun.always_of_kept
    · intro state event holds
      exact holds.step event
    · intro issued listed
      cases listed
  constructor
  · exact EventRun.Each.under
      (fun _ _ holds allowed => holds.loginSound opens allowed) always unforged
  · exact always.imp fun _ holds => holds.separated opens

end TokenServer

/-! A secret that everybody knows: the claims are written out behind a mark. -/

namespace ClaimSet

def natural : Format Char ℕ :=
  .token '.' (Nat.toDigits 10) (fun text => some (Nat.ofDigitChars 10 text 0))
    (by
      intro value listed
      have digit : Char.isDigit '.' = true :=
        Nat.isDigit_of_mem_toDigits (by decide) (by decide) listed
      cases digit)
    (fun value => by rw [Nat.ofDigitChars_ten_toDigits])

def string : Format Char String :=
  (natural.list natural).convert (fun text => text.toList.map Char.toNat)
    (fun codes => String.ofList (codes.map Char.ofNat))
    (by
      intro text
      have same : Char.ofNat ∘ Char.toNat = id := funext Char.ofNat_toNat
      rw [List.map_map, same, List.map_id, String.ofList_toList])

def value : Format Char ClaimValue :=
  (natural.pair string).convert
    (fun
      | .other => (0, "")
      | .text text => (1, text)
      | .number count => (count + 2, ""))
    (fun
      | (0, _) => .other
      | (1, text) => .text text
      | (count + 2, _) => .number count)
    (by
      intro value
      cases value <;> rfl)

def format : Format Char ClaimSet :=
  (natural.list (string.pair value)).after "HS256.".toList

end ClaimSet

def openKeys : JwtKeys where
  encode set := String.ofList (ClaimSet.format.write set)
  decode token := ClaimSet.format.decode token.toList
  ttlSecs := 900

private theorem openKeys_opens : openKeys.Opens := by
  intro set
  simp only [openKeys, String.toList_ofList, Format.decode_write]

namespace TokenServer

def lockKey : List UInt8 := List.replicate 32 7

def lockCrypto : AuthCrypto where
  hashPassword password := .ok password
  verifyPasswordHash password hash := .ok (password == hash)
  verifyChallenge _ := .error .unauthenticated
  verifySignature key _ signature := signature == key ++ key

def lockServer : Server where
  store := {
    users := [⟨1, "owner", "Owner", "", true, false, some lockKey, ""⟩] }

def lockRequest (challenge : String) : AuthSvc.KeyLoginRequest :=
  ⟨lockKey, challenge, lockKey ++ lockKey, "desktop"⟩

def lockChallenge : String :=
  openKeys.issueChallenge 100 (AuthSvc.hexEncode lockKey) (5 : Uuid).text

/-- The owner asks for a challenge and answers it; somebody else makes one
up. -/
def lockEvents : List TokenEvent := [
  ⟨100, .requestChallenge 5 lockKey⟩,
  ⟨150, .call (.session
    (.loginWithKey ⟨0, 2, "refresh"⟩ (lockRequest lockChallenge)))⟩,
  ⟨160, .call (.session
    (.loginWithKey ⟨0, 3, "other"⟩ (lockRequest "HS256.forged")))⟩]

private theorem lockLogin_accepted {challenge : String}
    (verified : openKeys.verifyChallenge 150 challenge =
      .ok (AuthSvc.hexEncode lockKey)) :
    (AuthSvc.loginWithKey (openKeys.crypto lockCrypto 150) ⟨0, 2, "refresh"⟩
      (lockRequest challenge) lockServer.store).1.isOk = true := by
  have registered : lockServer.store.findUserByIdentity lockKey =
      some ⟨1, "owner", "Owner", "", true, false, some lockKey, ""⟩ := by
    decide +kernel
  have session : AuthSvc.loginWithKey (openKeys.crypto lockCrypto 150)
      ⟨0, 2, "refresh"⟩ (lockRequest challenge) lockServer.store =
        AuthSvc.issueSession ⟨0, 2, "refresh"⟩
          ⟨1, "owner", "Owner", "", true, false, some lockKey, ""⟩ "desktop"
          lockServer.store :=
    AuthSvc.loginWithKey_of_verified rfl rfl verified
      (beq_self_eq_true (lockKey ++ lockKey)) registered rfl
  rw [session]
  decide +kernel

theorem lockEvents_sound :
    (AuthSvc.loginWithKey (openKeys.crypto lockCrypto 150) ⟨0, 2, "refresh"⟩
        (lockRequest lockChallenge) lockServer.store).1.isOk = true ∧
      EventRun.Each (step openKeys lockCrypto ⟨false, false⟩)
        (LoginSound openKeys lockCrypto) ⟨lockServer, []⟩ lockEvents ∧
      EventRun.Always (step openKeys lockCrypto ⟨false, false⟩)
        (Separated openKeys) ⟨lockServer, []⟩ lockEvents := by
  constructor
  · apply lockLogin_accepted
    rw [lockChallenge, JwtKeys.verifyChallenge_issueChallenge openKeys_opens,
      if_neg (by decide)]
  · apply key_login_sound openKeys_opens
    refine ⟨trivial, fun _ => ⟨_, List.mem_singleton_self _, rfl⟩, ?_,
      trivial⟩
    intro decoded
    exact absurd decoded (by decide +kernel)

end TokenServer

end Accord
