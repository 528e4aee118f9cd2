import Accord.Server.Store.Groups

/-! `AuthService`.  Times, fresh ids and the registration limiter's answer are
arguments of the calls. -/

namespace Accord

/-- The primitives of other crates: Argon2 hashes, signed challenges and
Ed25519 signatures. -/
structure AuthCrypto where
  hashPassword : String → Except ServerError String
  verifyPasswordHash : String → String → Except ServerError Bool
  verifyChallenge : String → Except ServerError String
  verifySignature : List UInt8 → String → List UInt8 → Bool

structure AuthConfig where
  requireInvite : Bool
  openDms : Bool

namespace AuthSvc

def refreshTokenTtl : Int := 30 * 24 * 60 * 60 * 1000

def minPasswordLen : ℕ := 8

def maxLocalAccounts : ℕ := 3

def defaultPublicChannelId : Uuid :=
  0x01900000000070008000000000000001

/-- What a handler draws from its surroundings: the time and fresh ids. -/
structure Mint where
  now : Int
  id : Uuid
  token : String

structure RegisterRequest where
  username : String
  password : String
  displayName : String
  inviteToken : String
  identityPubkey : List UInt8

structure LoginRequest where
  username : String
  password : String
  deviceName : String

structure KeyLoginRequest where
  identityPubkey : List UInt8
  challenge : String
  signature : List UInt8
  deviceName : String

structure LoginResponse where
  accessToken : Claims
  refreshToken : String
  userId : Uuid
  deviceId : Uuid

structure RefreshTokenResponse where
  accessToken : Claims
  refreshToken : String

def hexEncode (bytes : List UInt8) : String :=
  String.ofList (bytes.flatMap fun byte =>
    [Nat.digitChar (byte.toNat / 16), Nat.digitChar (byte.toNat % 16)])

def sessionDeviceName (deviceName : String) : String :=
  if trim deviceName == "" then "Unknown device" else trim deviceName

def findOrCreateDevice (fresh userId : Uuid) (name : String) :
    Effect Store Status Uuid := do
  let found ← Effect.read (·.findDevice userId name)
  match found with
  | some existing => pure existing
  | none => orStatus (Store.createDevice fresh userId name)

/-- Every account but a guest is put into the default channel, as far as that
works. -/
def joinDefaultChannel (user : UserRow) : Effect Store Status Unit :=
  if user.isGuest then
    pure ()
  else
    (Store.addMember defaultPublicChannelId user.id "member").attempt

def issueSession (mint : Mint) (user : UserRow) (deviceName : String) :
    Effect Store Status LoginResponse := do
  let deviceId ← findOrCreateDevice mint.id user.id
    (sessionDeviceName deviceName)
  joinDefaultChannel user
  orStatus (Store.storeRefreshToken
    ⟨mint.token, user.id, deviceId, mint.now + refreshTokenTtl⟩)
  pure ⟨⟨user.id, deviceId⟩, mint.token, user.id, deviceId⟩

def refuseBanned (userId : Uuid) : Effect Store Status Unit :=
  Effect.check (fun store => !store.isBanned userId)
    ⟨.permissionDenied, "this account is banned"⟩

section Handlers

variable (crypto : AuthCrypto) (config : AuthConfig)

/-- A key-only account stores no hash, and no password matches it. -/
def verifyPassword (password storedHash : String) :
    Except ServerError Bool :=
  if storedHash == "" then
    .ok false
  else
    crypto.verifyPasswordHash password storedHash

def checkPassword (req : RegisterRequest) : Effect Store Status Unit :=
  if req.password == "" then
    Effect.check (fun _ => !req.identityPubkey.isEmpty)
      (ServerError.invalidArgument
        "a password or an identity key is required" : Status)
  else
    Effect.check (fun _ => minPasswordLen ≤ req.password.utf8ByteSize)
      (ServerError.invalidArgument
        "password must be at least 8 characters" : Status)

def checkIdentityKey (req : RegisterRequest) :
    Effect Store Status (Option (List UInt8)) :=
  if req.identityPubkey.isEmpty then
    pure none
  else do
    Effect.check (fun _ => req.identityPubkey.length == 32)
      (ServerError.invalidArgument "identity key must be 32 bytes" : Status)
    Effect.check (fun store => !store.identityExists req.identityPubkey)
      (ServerError.alreadyExists "identity key" : Status)
    pure (some req.identityPubkey)

/-- `limited` is what the rate limiter of remote addresses answers. -/
def register (mint : Mint) (isLocal : Bool) (limited : Option ServerError)
    (req : RegisterRequest) : Effect Store Status Uuid := do
  Effect.ofExcept (match isLocal, limited with
    | false, some error => .error error.toStatus
    | _, _ => .ok ())
  Effect.check (fun _ => trim req.username != "")
    (ServerError.invalidArgument "username is required" : Status)
  checkPassword req
  let userCount ← Effect.read (·.countUsers)
  let isFirstUser := userCount == 0 && isLocal
  Effect.check
    (fun _ => !(isLocal && config.requireInvite &&
      maxLocalAccounts ≤ userCount))
    (ServerError.invalidArgument
      "account limit reached (3 per device)" : Status)
  let hasValidInvite ← Effect.read fun store =>
    trim req.inviteToken != "" && store.isInviteValid (trim req.inviteToken)
  let isMember :=
    !config.requireInvite || isFirstUser || isLocal || hasValidInvite
  Effect.check (fun _ => isMember || config.openDms)
    (ServerError.permissionDenied : Status)
  let identityKey ← checkIdentityKey req
  let passwordHash ← Effect.ofExcept
    (if req.password == "" then .ok ""
      else (crypto.hashPassword req.password).mapError ServerError.toStatus)
  orStatus (Store.createUser {
    id := mint.id
    username := trim req.username
    displayName :=
      if trim req.displayName == "" then trim req.username
      else trim req.displayName
    passwordHash
    isOwner := isFirstUser
    isGuest := !isMember
    identityKey
    avatarUrl := "" })

def login (mint : Mint) (req : LoginRequest) :
    Effect Store Status LoginResponse := do
  let user ← Effect.require (·.findUserByUsername (trim req.username))
    ServerError.unauthenticated
  let matching ← Effect.ofExcept
    ((verifyPassword crypto req.password user.passwordHash).mapError
      ServerError.toStatus)
  Effect.check (fun _ => matching) (ServerError.unauthenticated : Status)
  refuseBanned user.id
  issueSession mint user req.deviceName

def loginWithKey (mint : Mint) (req : KeyLoginRequest) :
    Effect Store Status LoginResponse := do
  Effect.check (fun _ => req.identityPubkey.length == 32)
    (ServerError.invalidArgument "identity key must be 32 bytes" : Status)
  Effect.check (fun _ => req.signature.length == 64)
    (ServerError.invalidArgument "signature must be 64 bytes" : Status)
  let challengeFor ← Effect.ofExcept
    ((crypto.verifyChallenge req.challenge).mapError ServerError.toStatus)
  Effect.check (fun _ => challengeFor == hexEncode req.identityPubkey)
    (ServerError.unauthenticated : Status)
  Effect.check
    (fun _ => crypto.verifySignature req.identityPubkey req.challenge
      req.signature)
    (ServerError.unauthenticated : Status)
  let user ← Effect.require (·.findUserByIdentity req.identityPubkey)
    ServerError.unauthenticated
  refuseBanned user.id
  issueSession mint user req.deviceName

end Handlers

def replacement (mint : Mint) (row : RefreshRow) : RefreshRow :=
  ⟨mint.token, row.userId, row.deviceId, mint.now + refreshTokenTtl⟩

def refreshToken (mint : Mint) (token : String) :
    Effect Store Status RefreshTokenResponse := do
  let row ← Effect.require (·.lookupRefreshToken token)
    ServerError.unauthenticated
  Effect.check (fun _ => !(row.expiresAt < mint.now))
    (ServerError.unauthenticated : Status)
  orStatus (Store.storeRefreshToken (replacement mint row))
  Effect.update (·.deleteRefreshToken token)
  pure ⟨⟨row.userId, row.deviceId⟩, mint.token⟩

section RefreshToken

variable {mint : Mint} {token : String} {store : Store}

theorem refreshToken_absent
    (absent : store.lookupRefreshToken token = none) :
    refreshToken mint token store =
      (.error ServerError.unauthenticated.toStatus, store) := by
  simp only [refreshToken, bind, Effect.bind, Effect.require, absent]

variable {row : RefreshRow}
  (found : store.lookupRefreshToken token = some row)

include found in
theorem refreshToken_expired (expired : row.expiresAt < mint.now) :
    refreshToken mint token store =
      (.error ServerError.unauthenticated.toStatus, store) := by
  simp [refreshToken, bind, Effect.bind, Effect.require, found, Effect.check,
    expired]

include found in
theorem refreshToken_refused (current : ¬ row.expiresAt < mint.now)
    (refused : store.acceptsRefreshToken (replacement mint row) = false) :
    ∃ error, refreshToken mint token store = (.error error, store) := by
  obtain ⟨error, rejected⟩ := Store.storeRefreshToken_refused refused
  refine ⟨error.toStatus, ?_⟩
  simp [refreshToken, bind, Effect.bind, Effect.require, found, Effect.check,
    current, orStatus, Effect.mapError, rejected, Except.mapError]

include found in
theorem refreshToken_accepted (current : ¬ row.expiresAt < mint.now)
    (accepted : store.acceptsRefreshToken (replacement mint row) = true) :
    refreshToken mint token store =
      (.ok ⟨⟨row.userId, row.deviceId⟩, mint.token⟩,
        Store.deleteRefreshToken
          { store with
            refreshTokens := store.refreshTokens ++ [replacement mint row] }
          token) := by
  have stored := Store.storeRefreshToken_accepted accepted
  simp [refreshToken, bind, Effect.bind, Effect.require, found, Effect.check,
    current, orStatus, Effect.mapError, stored, Except.mapError,
    Effect.update, pure, Effect.pure]

end RefreshToken

def revokeDevice (now : Int) (token : Option Claims)
    (deviceId : Option IdText) : Effect Store Status Unit := do
  let claims ← authenticate token
  let text ← Effect.ofOption deviceId
    (ServerError.invalidArgument "device_id is required")
  let device ← Effect.ofOption text.parse
    (ServerError.invalidArgument "device_id is not a valid UUID")
  Effect.update (·.revokeDevice claims.sub device now)

/-! What the statements of a session keep, the calls keep. -/

theorem readOnly_refuseBanned (userId : Uuid) :
    (refuseBanned userId).ReadOnly :=
  Effect.readOnly_check _ _

private theorem readOnly_checkPassword (req : RegisterRequest) :
    (checkPassword req).ReadOnly := by
  simp only [checkPassword]
  split <;> exact Effect.readOnly_check _ _

private theorem readOnly_checkIdentityKey (req : RegisterRequest) :
    (checkIdentityKey req).ReadOnly := by
  simp only [checkIdentityKey]
  split
  · exact Effect.readOnly_pure _
  · refine (Effect.readOnly_check _ _).bind fun _ => ?_
    exact (Effect.readOnly_check _ _).bind fun _ => Effect.readOnly_pure _

section Keeps

variable {invariant : Store → Prop}
  (devices : ∀ fresh userId name,
    (Store.createDevice fresh userId name).Keeps invariant)
  (tokens : ∀ row, (Store.storeRefreshToken row).Keeps invariant)

include devices tokens in
theorem keeps_issueSession (mint : Mint) {user : UserRow}
    (deviceName : String) (joins : (joinDefaultChannel user).Keeps invariant) :
    (issueSession mint user deviceName).Keeps invariant := by
  have device : ∀ name,
      (findOrCreateDevice mint.id user.id name).Keeps invariant := by
    intro name
    refine (Effect.readOnly_read _).keeps.bind fun found => ?_
    cases found with
    | some existing => exact (Effect.readOnly_pure _).keeps
    | none => exact (devices _ _ _).mapError _
  refine (device _).bind fun deviceId => joins.bind fun _ => ?_
  refine Effect.Keeps.bind ((tokens _).mapError _) fun _ => ?_
  exact (Effect.readOnly_pure _).keeps

include tokens in
theorem keeps_refreshToken
    (deletes : ∀ (store : Store) token, invariant store →
      invariant (store.deleteRefreshToken token))
    (mint : Mint) (token : String) :
    (refreshToken mint token).Keeps invariant := by
  refine (Effect.readOnly_require _ _).keeps.bind fun row => ?_
  refine (Effect.readOnly_check _ _).keeps.bind fun _ => ?_
  refine Effect.Keeps.bind ((tokens _).mapError _) fun _ => ?_
  refine Effect.Keeps.bind
    (Effect.keeps_update fun store => deletes store token) fun _ => ?_
  exact (Effect.readOnly_pure _).keeps

theorem keeps_revokeDevice
    (revokes : ∀ (store : Store) userId deviceId now, invariant store →
      invariant (store.revokeDevice userId deviceId now))
    (now : Int) (token : Option Claims) (deviceId : Option IdText) :
    (revokeDevice now token deviceId).Keeps invariant := by
  refine (readOnly_authenticate _).keeps.bind fun claims => ?_
  refine (Effect.readOnly_ofOption _ _).keeps.bind fun text => ?_
  refine (Effect.readOnly_ofOption _ _).keeps.bind fun device => ?_
  exact Effect.keeps_update fun store => revokes store claims.sub device now

theorem keeps_login (crypto : AuthCrypto) (mint : Mint) (req : LoginRequest)
    (sessions : ∀ store : Store, invariant store → ∀ user ∈ store.users,
      (issueSession mint user req.deviceName).Post store
        fun _ after => invariant after) :
    (login crypto mint req).Keeps invariant := by
  intro store holds
  have kept : (login crypto mint req).Post store
      fun _ after => invariant after := by
    refine (Effect.readOnly_require _ _).post_bind (fun _ _ => holds) ?_
    intro user found
    have viewed := Effect.require_ok found
    have listed := List.mem_of_find?_eq_some viewed
    refine (Effect.readOnly_ofExcept _).post_bind (fun _ _ => holds) ?_
    intro matching _
    refine (Effect.readOnly_check _ _).post_bind (fun _ _ => holds) ?_
    intro _ _
    refine (readOnly_refuseBanned _).post_bind (fun _ _ => holds) ?_
    intro _ _
    exact sessions store holds user listed
  exact kept

theorem keeps_loginWithKey (crypto : AuthCrypto) (mint : Mint)
    (req : KeyLoginRequest)
    (sessions : ∀ store : Store, invariant store → ∀ user ∈ store.users,
      (issueSession mint user req.deviceName).Post store
        fun _ after => invariant after) :
    (loginWithKey crypto mint req).Keeps invariant := by
  intro store holds
  have kept : (loginWithKey crypto mint req).Post store
      fun _ after => invariant after := by
    refine (Effect.readOnly_check _ _).post_bind (fun _ _ => holds) ?_
    intro _ _
    refine (Effect.readOnly_check _ _).post_bind (fun _ _ => holds) ?_
    intro _ _
    refine (Effect.readOnly_ofExcept _).post_bind (fun _ _ => holds) ?_
    intro challengeFor _
    refine (Effect.readOnly_check _ _).post_bind (fun _ _ => holds) ?_
    intro _ _
    refine (Effect.readOnly_check _ _).post_bind (fun _ _ => holds) ?_
    intro _ _
    refine (Effect.readOnly_require _ _).post_bind (fun _ _ => holds) ?_
    intro user found
    have viewed := Effect.require_ok found
    have listed := List.mem_of_find?_eq_some viewed
    refine (readOnly_refuseBanned _).post_bind (fun _ _ => holds) ?_
    intro _ _
    exact sessions store holds user listed
  exact kept

/-- The account a registration creates, whatever was asked for: the owner is
never a guest. -/
theorem post_register (crypto : AuthCrypto) (config : AuthConfig)
    (mint : Mint) (isLocal : Bool) (limited : Option ServerError)
    (req : RegisterRequest)
    {invariant : Store → Prop} {store : Store} (holds : invariant store)
    (creates : ∀ row : UserRow, row.id = mint.id →
      (row.isGuest = true → row.isOwner = false) →
      (Store.createUser row).Post store fun _ after => invariant after) :
    (register crypto config mint isLocal limited req).Post store
      fun _ after => invariant after := by
  refine (Effect.readOnly_ofExcept _).post_bind (fun _ _ => holds) ?_
  intro _ _
  refine (Effect.readOnly_check _ _).post_bind (fun _ _ => holds) ?_
  intro _ _
  refine (readOnly_checkPassword _).post_bind (fun _ _ => holds) ?_
  intro _ _
  refine (Effect.readOnly_read _).post_bind (fun _ _ => holds) ?_
  intro userCount _
  refine (Effect.readOnly_check _ _).post_bind (fun _ _ => holds) ?_
  intro _ _
  refine (Effect.readOnly_read _).post_bind (fun _ _ => holds) ?_
  intro hasValidInvite _
  refine (Effect.readOnly_check _ _).post_bind (fun _ _ => holds) ?_
  intro _ _
  refine (readOnly_checkIdentityKey _).post_bind (fun _ _ => holds) ?_
  intro identityKey _
  refine (Effect.readOnly_ofExcept _).post_bind (fun _ _ => holds) ?_
  intro passwordHash _
  apply Effect.post_mapError
  apply creates _ rfl
  intro guest
  simp only [Bool.not_eq_true', Bool.or_eq_false_iff] at guest
  exact guest.1.1.2

end Keeps

end AuthSvc

end Accord
