import Accord.Library.Tasks
import Accord.Server.Auth.Service

/-! Registrations store call by store call.  Whether an account becomes the
owner is decided when the users are counted and acted upon when the account is
inserted; other registrations run in between. -/

namespace Accord

namespace AuthSvc

/-- What `register` checks before it asks the store. -/
def validateRegistration (isLocal : Bool) (limited : Option ServerError)
    (req : RegisterRequest) : Effect Store Status Unit := do
  Effect.ofExcept (match isLocal, limited with
    | false, some error => .error error.toStatus
    | _, _ => .ok ())
  Effect.check (fun _ => trim req.username != "")
    (ServerError.invalidArgument "username is required" : Status)
  checkPassword req

/-- `count_users` and the decisions taken on it: is this the first user? -/
def countRegistration (config : AuthConfig) (isLocal : Bool) :
    Effect Store Status Bool := do
  let userCount ← Effect.read (·.countUsers)
  Effect.check
    (fun _ => !(isLocal && config.requireInvite &&
      maxLocalAccounts ≤ userCount))
    (ServerError.invalidArgument
      "account limit reached (3 per device)" : Status)
  pure (userCount == 0 && isLocal)

/-- `is_invite_valid` and the tier it decides: is this a member? -/
def tierRegistration (config : AuthConfig) (isLocal : Bool)
    (req : RegisterRequest) (isFirstUser : Bool) :
    Effect Store Status Bool := do
  let hasValidInvite ← Effect.read fun store =>
    trim req.inviteToken != "" && store.isInviteValid (trim req.inviteToken)
  let isMember :=
    !config.requireInvite || isFirstUser || isLocal || hasValidInvite
  Effect.check (fun _ => isMember || config.openDms)
    (ServerError.permissionDenied : Status)
  pure isMember

/-- `identity_exists`, and the hash that is computed before the insert. -/
def credentials (crypto : AuthCrypto) (req : RegisterRequest) :
    Effect Store Status (Option (List UInt8) × String) := do
  let identityKey ← checkIdentityKey req
  let passwordHash ← Effect.ofExcept
    (if req.password == "" then .ok ""
      else (crypto.hashPassword req.password).mapError ServerError.toStatus)
  pure (identityKey, passwordHash)

def accountRow (id : Uuid) (req : RegisterRequest)
    (isFirstUser isMember : Bool)
    (secrets : Option (List UInt8) × String) : UserRow where
  id
  username := trim req.username
  displayName :=
    if trim req.displayName == "" then trim req.username
    else trim req.displayName
  passwordHash := secrets.2
  isOwner := isFirstUser
  isGuest := !isMember
  identityKey := secrets.1
  avatarUrl := ""

theorem register_eq (crypto : AuthCrypto) (config : AuthConfig) (mint : Mint)
    (isLocal : Bool) (limited : Option ServerError) (req : RegisterRequest) :
    register crypto config mint isLocal limited req = (do
      validateRegistration isLocal limited req
      let isFirstUser ← countRegistration config isLocal
      let isMember ← tierRegistration config isLocal req isFirstUser
      let secrets ← credentials crypto req
      orStatus (Store.createUser
        (accountRow mint.id req isFirstUser isMember secrets))) := by
  simp only [register, validateRegistration, countRegistration,
    tierRegistration, credentials, bind_assoc, pure_bind]
  rfl

end AuthSvc

structure RegisterCall where
  isLocal : Bool
  limited : Option ServerError
  req : AuthSvc.RegisterRequest

inductive RegisterPhase where
  | validating
  | counting
  | tiering (isFirstUser : Bool)
  | securing (isFirstUser isMember : Bool)
  | inserting (isFirstUser isMember : Bool)
      (secrets : Option (List UInt8) × String)
  | registered (row : UserRow)
  | refused (status : Status)

structure RegisterTask where
  call : RegisterCall
  phase : RegisterPhase

namespace RegisterTask

/-- The registration has found no user and is going to be the owner's. -/
def claimsOwnership (task : RegisterTask) : Bool :=
  match task.phase with
  | .tiering isFirstUser => isFirstUser
  | .securing isFirstUser _ => isFirstUser
  | .inserting isFirstUser _ _ => isFirstUser
  | .validating | .counting | .registered _ | .refused _ => false

/-- Its next call is going to count zero users, from a loopback address. -/
def countsFirst (task : RegisterTask) (store : Store) : Bool :=
  match task.phase with
  | .counting => task.call.isLocal && store.countUsers == 0
  | _ => false

end RegisterTask

abbrev Registrations := Tasks.Pool Store RegisterTask

abbrev RegisterEvent := Tasks.Event RegisterCall Uuid

namespace Registrations

open AuthSvc

variable (crypto : AuthCrypto) (config : AuthConfig)

/-- One store call of a registration; `fresh` is the id of a new account. -/
def advance (store : Store) (task : RegisterTask) (fresh : Uuid) :
    Store × RegisterTask :=
  let call := task.call
  let refused (status : Status) : RegisterTask := ⟨call, .refused status⟩
  match task.phase with
  | .validating =>
      Tasks.turn (validateRegistration call.isLocal call.limited call.req)
        (fun _ => ⟨call, .counting⟩) refused store
  | .counting =>
      Tasks.turn (countRegistration config call.isLocal)
        (fun isFirstUser => ⟨call, .tiering isFirstUser⟩) refused store
  | .tiering isFirstUser =>
      Tasks.turn (tierRegistration config call.isLocal call.req isFirstUser)
        (fun isMember => ⟨call, .securing isFirstUser isMember⟩) refused store
  | .securing isFirstUser isMember =>
      Tasks.turn (credentials crypto call.req)
        (fun secrets => ⟨call, .inserting isFirstUser isMember secrets⟩)
        refused store
  | .inserting isFirstUser isMember secrets =>
      let row := accountRow fresh call.req isFirstUser isMember secrets
      Tasks.turn (orStatus (Store.createUser row))
        (fun _ => ⟨call, .registered row⟩) refused store
  | .registered _ | .refused _ => (store, task)

def machine : Tasks.Machine Store RegisterCall RegisterTask Uuid where
  enter call := ⟨call, .validating⟩
  advance := advance crypto config

def owners (store : Store) : ℕ := store.users.countP (·.isOwner)

/-- At most one account is the owner's, and it was registered from a loopback
address. -/
structure OneOwner (pool : Registrations) : Prop where
  unique : owners pool.shared ≤ 1
  loopback : ∀ user ∈ pool.shared.users, user.isOwner = true →
    ∃ (index : ℕ) (call : RegisterCall),
      pool.tasks[index]? = some ⟨call, .registered user⟩ ∧
        call.isLocal = true

/-- No registration from a loopback address counts zero users while another
one that did is still in flight. -/
def Orderly (pool : Registrations) : RegisterEvent → Prop
  | .start _ => True
  | .turn index _ => ∀ task ∈ pool.tasks[index]?,
      task.countsFirst pool.shared = true →
      ∀ other ∈ pool.tasks, other.claimsOwnership = false

instance (pool : Registrations) (event : RegisterEvent) :
    Decidable (Orderly pool event) :=
  match event with
  | .start _ => inferInstanceAs (Decidable True)
  | .turn index _ =>
      inferInstanceAs (Decidable (∀ task ∈ pool.tasks[index]?,
        task.countsFirst pool.shared = true →
        ∀ other ∈ pool.tasks, other.claimsOwnership = false))

structure Enrolled (pool : Registrations) : Prop where
  claims :
    owners pool.shared + pool.tasks.countP RegisterTask.claimsOwnership ≤ 1
  claimant : ∀ (index : ℕ) (task : RegisterTask),
    pool.tasks[index]? = some task → task.claimsOwnership = true →
    task.call.isLocal = true
  loopback : ∀ user ∈ pool.shared.users, user.isOwner = true →
    ∃ (index : ℕ) (call : RegisterCall),
      pool.tasks[index]? = some ⟨call, .registered user⟩ ∧
        call.isLocal = true

private theorem Enrolled.oneOwner {pool : Registrations}
    (enrolled : Enrolled pool) :
    OneOwner pool where
  unique := by
    have claims := enrolled.claims
    omega
  loopback := enrolled.loopback

theorem Enrolled.started {pool : Registrations} (enrolled : Enrolled pool)
    (call : RegisterCall) :
    Enrolled ((machine crypto config).started pool call) where
  claims := by
    have none : ([⟨call, .validating⟩] : List RegisterTask).countP
        RegisterTask.claimsOwnership = 0 := rfl
    simp only [Tasks.Machine.started, machine, List.countP_append, none]
    exact enrolled.claims
  claimant := by
    intro index task stored claiming
    rcases Slots.append_cases stored with old | ⟨_, rfl⟩
    · exact enrolled.claimant index task old claiming
    · cases claiming
  loopback := by
    intro user member owner
    obtain ⟨index, other, stored, isLocal⟩ :=
      enrolled.loopback user member owner
    exact ⟨index, other, Slots.getElem?_append_of_found stored _, isLocal⟩

section Turns

variable {crypto config} {pool : Registrations} {index : ℕ}
  {old new : RegisterTask} {store : Store}

/-- A turn that leaves the users alone keeps the invariant, unless it lays a
claim where there is a claim or an owner. -/
theorem Enrolled.moved (enrolled : Enrolled pool)
    (found : pool.tasks[index]? = some old)
    (unregistered : ∀ user, old.phase ≠ .registered user)
    (sameCall : new.call = old.call)
    (sameUsers : store.users = pool.shared.users)
    (claiming : new.claimsOwnership = true → old.claimsOwnership = true ∨
      (new.call.isLocal = true ∧ owners pool.shared +
        pool.tasks.countP RegisterTask.claimsOwnership = 0)) :
    Enrolled (pool.settle index (store, new)) where
  claims := by
    have counted := Slots.countP_set_of_found found new
      RegisterTask.claimsOwnership
    have before := enrolled.claims
    have same : owners store = owners pool.shared := by
      simp only [owners, sameUsers]
    simp only [Tasks.Pool.settle_shared, Tasks.Pool.settle_tasks, same]
    cases claimed : new.claimsOwnership with
    | false =>
        rw [claimed, Bool.toNat_false] at counted
        omega
    | true =>
        rw [claimed, Bool.toNat_true] at counted
        rcases claiming claimed with held | ⟨_, none⟩
        · rw [held, Bool.toNat_true] at counted
          omega
        · omega
  claimant := by
    intro other task stored claims
    rcases Slots.set_cases found stored with ⟨_, rfl⟩ | ⟨_, kept⟩
    · rcases claiming claims with held | ⟨isLocal, _⟩
      · rw [sameCall]
        exact enrolled.claimant index old found held
      · exact isLocal
    · exact enrolled.claimant other task kept claims
  loopback := by
    intro user member owner
    rw [Tasks.Pool.settle_shared, sameUsers] at member
    obtain ⟨place, call, stored, isLocal⟩ :=
      enrolled.loopback user member owner
    refine ⟨place, call, ?_, isLocal⟩
    rw [Tasks.Pool.settle_tasks, Slots.getElem?_set_of_found found, if_neg]
    · exact stored
    · rintro rfl
      rw [found] at stored
      cases stored
      exact unregistered user rfl

theorem Enrolled.inserted (enrolled : Enrolled pool) {call : RegisterCall}
    {isFirstUser isMember : Bool} {secrets : Option (List UInt8) × String}
    (found : pool.tasks[index]? =
      some ⟨call, .inserting isFirstUser isMember secrets⟩) {row : UserRow}
    (decided : row.isOwner = isFirstUser)
    (grown : store.users = pool.shared.users ++ [row]) :
    Enrolled (pool.settle index (store, ⟨call, .registered row⟩)) where
  claims := by
    have counted := Slots.countP_set_of_found found ⟨call, .registered row⟩
      RegisterTask.claimsOwnership
    have before := enrolled.claims
    have owned : owners store =
        owners pool.shared + isFirstUser.toNat := by
      simp only [owners, grown, List.countP_append, List.countP_singleton,
        decided]
      cases isFirstUser <;> rfl
    simp only [RegisterTask.claimsOwnership, Bool.toNat_false] at counted
    simp only [Tasks.Pool.settle_shared, Tasks.Pool.settle_tasks, owned]
    omega
  claimant := by
    intro other task stored claims
    rcases Slots.set_cases found stored with ⟨_, rfl⟩ | ⟨_, kept⟩
    · cases claims
    · exact enrolled.claimant other task kept claims
  loopback := by
    intro user member owner
    rw [Tasks.Pool.settle_shared, grown] at member
    rcases List.mem_append.mp member with kept | created
    · obtain ⟨place, other, stored, isLocal⟩ :=
        enrolled.loopback user kept owner
      refine ⟨place, other, ?_, isLocal⟩
      rw [Tasks.Pool.settle_tasks, Slots.getElem?_set_of_found found, if_neg]
      · exact stored
      · rintro rfl
        rw [found] at stored
        cases stored
    · rw [List.mem_singleton] at created
      subst created
      refine ⟨index, call, ?_, ?_⟩
      · rw [Tasks.Pool.settle_tasks, Slots.getElem?_set_of_found found,
          if_pos rfl]
      · apply enrolled.claimant index _ found
        rw [← decided]
        exact owner

theorem readOnly_validateRegistration (call : RegisterCall) :
    (validateRegistration call.isLocal call.limited call.req).ReadOnly := by
  apply (Effect.readOnly_ofExcept _).bind
  intro _
  apply (Effect.readOnly_check _ _).bind
  intro _
  simp only [checkPassword]
  split
  · exact Effect.readOnly_check _ _
  · exact Effect.readOnly_check _ _

theorem readOnly_tierRegistration (call : RegisterCall)
    (isFirstUser : Bool) :
    (tierRegistration config call.isLocal call.req isFirstUser).ReadOnly := by
  apply (Effect.readOnly_read _).bind
  intro _
  exact (Effect.readOnly_check _ _).bind fun _ => Effect.readOnly_pure _

theorem readOnly_credentials (req : RegisterRequest) :
    (credentials crypto req).ReadOnly := by
  apply Effect.ReadOnly.bind
  · simp only [checkIdentityKey]
    split
    · exact Effect.readOnly_pure _
    · apply (Effect.readOnly_check _ _).bind
      intro _
      exact (Effect.readOnly_check _ _).bind fun _ => Effect.readOnly_pure _
  · intro _
    exact (Effect.readOnly_ofExcept _).bind fun _ => Effect.readOnly_pure _

private theorem countRegistration_post (isLocal : Bool) (store : Store) :
    (countRegistration config isLocal).Post store fun result after =>
      after = store ∧ ∀ isFirstUser, result = .ok isFirstUser →
        isFirstUser = true → store.countUsers = 0 ∧ isLocal = true := by
  apply (Effect.readOnly_read _).post_bind
  · intro error failed
    cases failed
  · intro userCount counted
    cases counted
    apply (Effect.readOnly_check _ _).post_bind
    · intro error _
      exact ⟨rfl, by simp⟩
    · intro _ _
      refine ⟨rfl, ?_⟩
      intro isFirstUser returned first
      cases returned
      simpa using first

theorem createUser_orStatus_post (row : UserRow) (store : Store) :
    (orStatus (Store.createUser row)).Post store fun result after =>
      (∀ status, result = .error status → after = store) ∧
      (∀ id, result = .ok id → after.users = store.users ++ [row]) := by
  apply Effect.post_mapError
  apply (Effect.readOnly_check _ _).post_bind
  · intro error _
    exact ⟨fun _ _ => rfl, by rintro _ ⟨⟩⟩
  · intro _ _
    refine ⟨?_, fun _ _ => rfl⟩
    intro error failed
    cases failed

theorem Enrolled.reads {Value : Type} (enrolled : Enrolled pool)
    {call : RegisterCall} {phase : RegisterPhase}
    (found : pool.tasks[index]? = some ⟨call, phase⟩)
    (unregistered : ∀ user, phase ≠ .registered user)
    {effect : Effect Store Status Value} (readOnly : effect.ReadOnly)
    {next : Value → RegisterPhase}
    (kept : ∀ value, (⟨call, next value⟩ : RegisterTask).claimsOwnership =
      true → (⟨call, phase⟩ : RegisterTask).claimsOwnership = true) :
    Enrolled (pool.settle index
      (Tasks.turn effect (fun value => (⟨call, next value⟩ : RegisterTask))
        (fun status => ⟨call, .refused status⟩) pool.shared)) := by
  have posted : effect.Post pool.shared fun _ after => after = pool.shared :=
    readOnly pool.shared
  apply Tasks.turn_post (fun outcome => Enrolled (pool.settle index outcome))
    posted
  · rintro value _ rfl
    exact enrolled.moved found unregistered rfl rfl
      fun claims => .inl (kept value claims)
  · rintro status _ rfl
    exact enrolled.moved found unregistered rfl rfl (by rintro ⟨⟩)

theorem Enrolled.counted (enrolled : Enrolled pool) {call : RegisterCall}
    (found : pool.tasks[index]? = some ⟨call, .counting⟩)
    (orderly : call.isLocal = true → pool.shared.countUsers = 0 →
      ∀ task ∈ pool.tasks, task.claimsOwnership = false) :
    Enrolled (pool.settle index
      (Tasks.turn (countRegistration config call.isLocal)
        (fun isFirstUser => (⟨call, .tiering isFirstUser⟩ : RegisterTask))
        (fun status => ⟨call, .refused status⟩) pool.shared)) := by
  apply Tasks.turn_post (fun outcome => Enrolled (pool.settle index outcome))
    (countRegistration_post call.isLocal pool.shared)
  · rintro isFirstUser _ ⟨rfl, decided⟩
    refine enrolled.moved found (by simp) rfl rfl fun claims => ?_
    obtain ⟨empty, isLocal⟩ := decided isFirstUser rfl claims
    have noOwner : owners pool.shared = 0 := by
      simp only [owners, List.length_eq_zero_iff.mp empty, List.countP_nil]
    have noClaim :
        pool.tasks.countP RegisterTask.claimsOwnership = 0 := by
      rw [List.countP_eq_zero]
      intro task member claimed
      rw [orderly isLocal empty task member] at claimed
      cases claimed
    exact .inr ⟨isLocal, by rw [noOwner, noClaim]⟩
  · rintro status _ ⟨rfl, _⟩
    exact enrolled.moved found (by simp) rfl rfl (by rintro ⟨⟩)

theorem Enrolled.turned (enrolled : Enrolled pool)
    (found : pool.tasks[index]? = some old) (fresh : Uuid)
    (orderly : Orderly pool (.turn index fresh)) :
    Enrolled ((machine crypto config).turned pool index old fresh) := by
  obtain ⟨call, phase⟩ := old
  cases phase with
  | validating =>
      exact enrolled.reads found (by simp)
        (readOnly_validateRegistration call) (by rintro _ ⟨⟩)
  | counting =>
      apply enrolled.counted found
      intro isLocal empty
      apply orderly _ found
      simp [RegisterTask.countsFirst, isLocal, empty]
  | tiering isFirstUser =>
      exact enrolled.reads found (by simp)
        (readOnly_tierRegistration call isFirstUser) (fun _ claims => claims)
  | securing isFirstUser isMember =>
      exact enrolled.reads found (by simp)
        (readOnly_credentials call.req) (fun _ claims => claims)
  | inserting isFirstUser isMember secrets =>
      apply Tasks.turn_post
        (fun outcome => Enrolled (pool.settle index outcome))
        (createUser_orStatus_post
          (accountRow fresh call.req isFirstUser isMember secrets) pool.shared)
      · rintro _ store ⟨_, inserted⟩
        exact enrolled.inserted found rfl (inserted _ rfl)
      · rintro status _ ⟨unchanged, _⟩
        rw [unchanged _ rfl]
        exact enrolled.moved found (by simp) rfl rfl (by rintro ⟨⟩)
  | registered row =>
      change Enrolled (pool.settle index (pool.shared, _))
      rw [Tasks.Pool.settle_self found]
      exact enrolled
  | refused status =>
      change Enrolled (pool.settle index (pool.shared, _))
      rw [Tasks.Pool.settle_self found]
      exact enrolled

end Turns

private theorem ends_register (mint : Mint) (call : RegisterCall)
    (store : Store) :
    (machine crypto config).Ends mint.id store
      ((machine crypto config).enter call)
      (register crypto config mint call.isLocal call.limited call.req
        store).2 := by
  rw [register_eq]
  apply Tasks.Machine.ends_turn rfl _ (fun _ _ => rfl)
  intro _ store _
  apply Tasks.Machine.ends_turn rfl _ (fun _ _ => rfl)
  intro isFirstUser store _
  apply Tasks.Machine.ends_turn rfl _ (fun _ _ => rfl)
  intro isMember store _
  apply Tasks.Machine.ends_turn rfl _ (fun _ _ => rfl)
  intro secrets store _
  exact Tasks.Machine.ends_last rfl (fun _ _ => rfl) (fun _ _ => rfl)

theorem run_alone (mint : Mint) (call : RegisterCall) (store : Store) :
    ∃ count, (EventRun.run (machine crypto config).step
      ⟨store, [(machine crypto config).enter call]⟩
      (List.replicate count (.turn 0 mint.id))).shared =
        (register crypto config mint call.isLocal call.limited call.req
          store).2 :=
  (ends_register crypto config mint call store).run

/-- From an empty user table on, registrations that take their turns in order
make one owner at most. -/
theorem oneOwner_of_orderly (crypto : AuthCrypto) (config : AuthConfig)
    (store : Store) (empty : store.users = []) (events : List RegisterEvent)
    (orderly : EventRun.Each (machine crypto config).step Orderly
      { shared := store } events) :
    EventRun.Always (machine crypto config).step OneOwner
      { shared := store } events := by
  have initially : Enrolled { shared := store } := by
    constructor
    · simp [owners, empty]
    · intro index task stored
      cases stored
    · intro user member
      rw [empty] at member
      cases member
  have enrolled := Tasks.Machine.always_of_turns
    (fun _ call holds _ => Enrolled.started crypto config holds call)
    (fun _ _ _ fresh found holds orderly => holds.turned found fresh orderly)
    initially orderly
  exact enrolled.imp fun _ holds => holds.oneOwner

def hostCrypto : AuthCrypto where
  hashPassword password := .ok ("$argon2id$" ++ password)
  verifyPasswordHash password hash := .ok (hash == "$argon2id$" ++ password)
  verifyChallenge := fun _ => .error .unauthenticated
  verifySignature := fun _ _ _ => false

def localAccount (name : String) (key : UInt8) : RegisterCall where
  isLocal := true
  limited := none
  req := ⟨name, "", "", "", List.replicate 32 key⟩

def queuedHosts : List RegisterEvent := [
  .start (localAccount "ada" 1), .turn 0 0, .turn 0 0, .turn 0 0, .turn 0 0,
  .turn 0 1, .start (localAccount "bob" 2), .turn 1 0, .turn 1 0, .turn 1 0,
  .turn 1 0, .turn 1 2]

def racingHosts : List RegisterEvent := [
  .start (localAccount "ada" 1), .start (localAccount "bob" 2), .turn 0 0,
  .turn 1 0, .turn 0 0, .turn 1 0, .turn 0 0, .turn 1 0, .turn 0 0,
  .turn 1 0, .turn 0 1, .turn 1 2]

theorem queuedHosts_oneOwner :
    EventRun.Always (machine hostCrypto ⟨true, false⟩).step OneOwner
      { shared := {} } queuedHosts :=
  oneOwner_of_orderly hostCrypto ⟨true, false⟩ {} rfl queuedHosts (by decide)

theorem racingHosts_twoOwners :
    ¬ EventRun.Always (machine hostCrypto ⟨true, false⟩).step OneOwner
      { shared := {} } racingHosts := by
  intro always
  have unique := always.last.unique
  exact absurd unique (by decide)

end Registrations

end Accord
