import Accord.Server.Auth.Registration
import Accord.Server.Auth.RegistrationRate

/-! Registrations one after the other, and the cap on the accounts of the
device. -/

namespace Accord

/-- What `register` works on. -/
structure Registrar where
  store : Store
  regLog : RegLog := ∅

namespace AuthSvc

def accountLimit : Status :=
  ServerError.invalidArgument "account limit reached (3 per device)"

/-- The raid brake of an address that is not the device itself. -/
def brake (remoteIp : Option IpAddr) (now : ℕ) :
    Effect Registrar Status Unit :=
  match remoteIp with
  | some ip =>
      if ip.isLoopback then
        pure ()
      else
        Effect.zoom (·.regLog) (fun regLog outer => { outer with regLog })
          ((checkRegistrationRate ip now).mapError ServerError.toStatus)
  | none => pure ()

def registerFrom (crypto : AuthCrypto) (config : AuthConfig) (mint : Mint)
    (remoteIp : Option IpAddr) (now : ℕ) (req : RegisterRequest) :
    Effect Registrar Status Uuid := do
  brake remoteIp now
  Effect.zoom (·.store) (fun store outer => { outer with store })
    (register crypto config mint (remoteIp.any IpAddr.isLoopback) none req)

/-- The fields that are looked at before the accounts are counted. -/
structure ValidFields (req : RegisterRequest) : Prop where
  username : trim req.username ≠ ""
  secret : if req.password = "" then req.identityPubkey ≠ []
    else minPasswordLen ≤ req.password.utf8ByteSize

/-- Hashing fails with an error of its own. -/
def HashesOrFails (crypto : AuthCrypto) : Prop :=
  ∀ password error, crypto.hashPassword password = .error error →
    ∃ cause, error = .passwordHash cause

section Limit

variable {crypto : AuthCrypto} {config : AuthConfig} {req : RegisterRequest}
  {store : Store}

private theorem validateRegistration_ok (valid : ValidFields req)
    (store : Store) :
    validateRegistration true none req store = (.ok (), store) := by
  have named : (trim req.username != "") = true := by
    simpa using valid.username
  have secret := valid.secret
  have passed : checkPassword req store = (.ok (), store) := by
    unfold checkPassword
    split at secret
    · rename_i keyOnly
      simp [keyOnly, Effect.check, secret]
    · rename_i withPassword
      simp [withPassword, Effect.check, secret]
  have checked : Effect.check (fun _ : Store => trim req.username != "")
      (ServerError.invalidArgument "username is required" : Status) store =
        (.ok (), store) := by
    simp only [Effect.check, named, if_true]
  have free : (Effect.ofExcept (.ok ()) : Effect Store Status Unit) store =
      (.ok (), store) := rfl
  unfold validateRegistration
  rw [Effect.bind_of_ok free, Effect.bind_of_ok checked]
  exact passed

private theorem raises_tierRegistration (isLocal isFirstUser : Bool) :
    (tierRegistration config isLocal req isFirstUser).Raises
      (· ≠ accountLimit) := by
  refine (Effect.raises_read _).bind fun _ => ?_
  refine (Effect.raises_check ?_).bind fun _ => Effect.raises_pure _
  decide

private theorem raises_credentials (hashes : HashesOrFails crypto) :
    (credentials crypto req).Raises (· ≠ accountLimit) := by
  refine Effect.Raises.bind ?_ fun _ => ?_
  · unfold checkIdentityKey
    split
    · exact Effect.raises_pure _
    · refine (Effect.raises_check ?_).bind fun _ => ?_
      · decide
      · refine (Effect.raises_check ?_).bind fun _ => Effect.raises_pure _
        decide
  · refine (Effect.raises_ofExcept ?_).bind fun _ => Effect.raises_pure _
    intro status failed
    split at failed
    · cases failed
    · rcases hashed : crypto.hashPassword req.password with error | hash
      · obtain ⟨cause, rfl⟩ := hashes _ _ hashed
        rw [hashed] at failed
        cases failed
        simp [ServerError.toStatus, accountLimit]
      · rw [hashed] at failed
        cases failed

private theorem raises_createUser (row : UserRow) :
    (orStatus (Store.createUser row)).Raises (· ≠ accountLimit) := by
  apply Effect.Raises.mapError
  refine (Effect.raises_check ?_).bind fun _ => ?_
  · decide
  · rintro store error ⟨⟩

/-- From the device itself, on a private server, the limit is what is answered
exactly when the table has as many accounts, whosever they are. -/
private theorem register_limit_iff (requires : config.requireInvite = true)
    (hashes : HashesOrFails crypto) (valid : ValidFields req) (mint : Mint)
    (store : Store) :
    (register crypto config mint true none req store).1 =
        .error accountLimit ↔
      maxLocalAccounts ≤ store.users.length := by
  rw [register_eq, Effect.bind_of_ok (validateRegistration_ok valid store)]
  by_cases full : maxLocalAccounts ≤ store.users.length
  · have refused : countRegistration config true store =
        (.error accountLimit, store) := by
      simp [countRegistration, Effect.read, Effect.check, bind, Effect.bind,
        requires, Store.countUsers, full, accountLimit]
    rw [Effect.bind_of_error refused]
    exact iff_of_true rfl full
  · have counted : countRegistration config true store =
        (.ok (store.countUsers == 0 && true), store) := by
      simp [countRegistration, Effect.read, Effect.check, bind, Effect.bind,
        requires, Store.countUsers, not_le.mp full, pure, Effect.pure]
    rw [Effect.bind_of_ok counted]
    refine iff_of_false ?_ full
    have raises : Effect.Raises _ (· ≠ accountLimit) :=
      (@raises_tierRegistration config req true
        (store.countUsers == 0 && true)).bind fun isMember =>
          (@raises_credentials crypto req hashes).bind fun secrets =>
            raises_createUser (accountRow mint.id req
              (store.countUsers == 0 && true) isMember secrets)
    exact fun limited => raises store _ limited rfl

private theorem register_post (mint : Mint) (isLocal : Bool)
    (limited : Option ServerError) (store : Store) :
    (register crypto config mint isLocal limited req).Post store
      fun result after => after.users.length =
        store.users.length + if result.toOption.isSome then 1 else 0 := by
  rw [register_eq]
  refine (Registrations.readOnly_validateRegistration
    ⟨isLocal, limited, req⟩).post_bind (fun _ _ => rfl) fun _ _ => ?_
  refine (Effect.ReadOnly.bind (Effect.readOnly_read _) fun _ =>
    (Effect.readOnly_check _ _).bind fun _ => Effect.readOnly_pure
      _).post_bind (fun _ _ => rfl) fun isFirstUser _ => ?_
  refine (Registrations.readOnly_tierRegistration
    ⟨isLocal, limited, req⟩ isFirstUser).post_bind (fun _ _ => rfl)
      fun isMember _ => ?_
  refine (Registrations.readOnly_credentials req).post_bind
    (fun _ _ => rfl) fun secrets _ => ?_
  refine (Registrations.createUser_orStatus_post _ store).imp ?_
  intro result after created
  cases result with
  | ok id =>
      rw [created.2 id rfl, List.length_append]
      rfl
  | error status =>
      rw [created.1 status rfl]
      rfl

end Limit

end AuthSvc

/-- `elsewhere` is any work that leaves the accounts alone. -/
inductive AccountEvent where
  | register (mint : AuthSvc.Mint) (remoteIp : Option IpAddr) (now : ℕ)
      (req : AuthSvc.RegisterRequest)
  | elsewhere (change : Store → Store)
      (spares : ∀ store, (change store).users = store.users)

/-- `locals` and `remotes` record how many accounts were created from the
device itself and from anywhere else. -/
structure AccountRun where
  registrar : Registrar
  locals : ℕ := 0
  remotes : ℕ := 0

namespace AccountRun

open AuthSvc

variable (crypto : AuthCrypto) (config : AuthConfig)

def step (run : AccountRun) : AccountEvent → AccountRun
  | .register mint remoteIp now req =>
      let (result, registrar) :=
        registerFrom crypto config mint remoteIp now req run.registrar
      match result with
      | .error _ => { run with registrar }
      | .ok _ =>
          if remoteIp.any IpAddr.isLoopback then
            { run with registrar, locals := run.locals + 1 }
          else
            { run with registrar, remotes := run.remotes + 1 }
  | .elsewhere change _ =>
      { run with
        registrar := { run.registrar with
          store := change run.registrar.store } }

def after (store : Store) (history : List AccountEvent) : AccountRun :=
  EventRun.run (step crypto config) { registrar := { store } } history

def Counted (run : AccountRun) : Prop :=
  run.registrar.store.users.length = run.locals + run.remotes

variable {crypto config} {run : AccountRun}

private theorem brake_store (remoteIp : Option IpAddr) (now : ℕ)
    (registrar : Registrar) :
    (brake remoteIp now registrar).2.store = registrar.store := by
  cases remoteIp with
  | none => rfl
  | some ip =>
      simp only [brake]
      split <;> rfl

private theorem registerFrom_post (mint : Mint) (remoteIp : Option IpAddr)
    (now : ℕ)
    (req : RegisterRequest) (registrar : Registrar) :
    (registerFrom crypto config mint remoteIp now req).Post registrar
      fun result after => after.store.users.length =
        registrar.store.users.length +
          if result.toOption.isSome then 1 else 0 := by
  have braked : (brake remoteIp now).Post registrar
      fun _ after => after.store = registrar.store :=
    brake_store remoteIp now registrar
  refine Effect.post_bind braked ?_ ?_
  · intro _ after same
    rw [same]
    rfl
  · intro _ after same
    rw [← same]
    exact Effect.post_zoom (register_post mint _ none after.store)

theorem Counted.step (counted : run.Counted) (event : AccountEvent) :
    (run.step crypto config event).Counted := by
  cases event with
  | register mint remoteIp now req =>
      have grown := @registerFrom_post crypto config mint remoteIp now req
        run.registrar
      simp only [AccountRun.step]
      rcases ran : registerFrom crypto config mint remoteIp now req
        run.registrar with ⟨result, registrar⟩
      rw [Effect.Post, ran] at grown
      unfold Counted at counted ⊢
      cases result with
      | error status => exact grown.trans counted
      | ok id =>
          change registrar.store.users.length =
            run.registrar.store.users.length + 1 at grown
          cases remoteIp.any IpAddr.isLoopback with
          | true =>
              simp only [if_true]
              omega
          | false =>
              simp only [Bool.false_eq_true, if_false]
              omega
  | elsewhere change spares =>
      exact (congrArg List.length (spares _)).trans counted

private theorem after_counted {store : Store} (empty : store.users = [])
    (history : List AccountEvent) :
    (after crypto config store history).Counted := by
  have initially : Counted { registrar := { store } } :=
    congrArg List.length empty
  have kept : ∀ (run : AccountRun) event, run.Counted →
      (run.step crypto config event).Counted :=
    fun _ event counted => counted.step event
  have always : EventRun.Always (AccountRun.step crypto config) Counted
      { registrar := { store } } history :=
    EventRun.always_of_kept kept initially history
  exact always.last

private theorem registerFrom_limit_iff {ip : IpAddr}
    (loopback : ip.isLoopback = true)
    (requires : config.requireInvite = true) (hashes : HashesOrFails crypto)
    {req : RegisterRequest} (valid : ValidFields req) (mint : Mint) (now : ℕ)
    (registrar : Registrar) :
    (registerFrom crypto config mint (some ip) now req registrar).1 =
        .error accountLimit ↔
      maxLocalAccounts ≤ registrar.store.users.length := by
  have exempt : brake (some ip) now registrar = (.ok (), registrar) := by
    simp only [brake, loopback, if_true]
    rfl
  rw [registerFrom, Effect.bind_of_ok exempt, Option.any_some, loopback]
  exact register_limit_iff requires hashes valid mint registrar.store

/-- The cap counts the accounts of the device, where there are three of these
or fewer than three accounts at all. -/
theorem cap_is_local_iff (crypto : AuthCrypto) (config : AuthConfig)
    (requires : config.requireInvite = true) (hashes : HashesOrFails crypto)
    (store : Store) (empty : store.users = [])
    (history : List AccountEvent) (mint : Mint) (ip : IpAddr)
    (loopback : ip.isLoopback = true) (now : ℕ) (req : RegisterRequest)
    (valid : ValidFields req) :
    let run := after crypto config store history
    ((registerFrom crypto config mint (some ip) now req run.registrar).1 =
        .error accountLimit ↔ maxLocalAccounts ≤ run.locals) ↔
      (maxLocalAccounts ≤ run.locals ∨
        run.locals + run.remotes < maxLocalAccounts) := by
  intro run
  have counted : run.Counted := after_counted empty history
  rw [registerFrom_limit_iff loopback requires hashes valid, counted]
  omega

def loopbackV4 : IpAddr := .v4 0x7f000001

def invitingStore : Store where
  invites := [⟨"come-in", false⟩]

def joining (remoteIp : IpAddr) (fresh : Uuid) (name invite : String)
    (key : UInt8) : AccountEvent :=
  .register ⟨0, fresh, ""⟩ (some remoteIp) 0
    ⟨name, "", "", invite, List.replicate 32 key⟩

def hostAndFriends : List AccountEvent := [
  joining loopbackV4 1 "ada" "" 1,
  joining (.v4 0x0a000002) 2 "bob" "come-in" 2,
  joining (.v4 0x0a000003) 3 "cyd" "come-in" 3]

def secondAccount : RegisterRequest :=
  ⟨"ada at work", "", "", "", List.replicate 32 4⟩

private theorem hostCrypto_hashes : HashesOrFails Registrations.hostCrypto := by
  rintro password error ⟨⟩

private theorem secondAccount_valid : ValidFields secondAccount where
  username := by decide
  secret := by decide

theorem host_alone :
    let run := after Registrations.hostCrypto ⟨true, false⟩ invitingStore
      [joining loopbackV4 1 "ada" "" 1]
    (registerFrom Registrations.hostCrypto ⟨true, false⟩ ⟨0, 4, ""⟩
        (some loopbackV4) 0 secondAccount run.registrar).1 =
        .error accountLimit ↔ maxLocalAccounts ≤ run.locals :=
  (cap_is_local_iff Registrations.hostCrypto ⟨true, false⟩ rfl
    hostCrypto_hashes invitingStore rfl [joining loopbackV4 1 "ada" "" 1]
    ⟨0, 4, ""⟩ loopbackV4 (by decide) 0 secondAccount
    secondAccount_valid).mpr (by decide +kernel)

/-- She has one account on the device, and is refused a second one. -/
theorem friends_counted :
    let run := after Registrations.hostCrypto ⟨true, false⟩ invitingStore
      hostAndFriends
    ¬ ((registerFrom Registrations.hostCrypto ⟨true, false⟩ ⟨0, 4, ""⟩
        (some loopbackV4) 0 secondAccount run.registrar).1 =
        .error accountLimit ↔ maxLocalAccounts ≤ run.locals) := by
  decide +kernel

end AccountRun

end Accord
