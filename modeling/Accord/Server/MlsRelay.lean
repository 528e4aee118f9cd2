import Accord.Server.Groups.Moderation
import Accord.Server.Messaging.Hub
import Accord.Server.Store.Inbox

/-! The server as its store and its hub, the relay of Commits and Welcomes,
and the opening and closing of streams.  What becomes of a published event is
an argument: the in-process bus accepts every event, Redis may refuse one. -/

namespace Accord

/-- A channel is its place in the list of all channels handed out, which
names the device it was made for. -/
structure Server where
  store : Store
  registry : Registry ℕ := {}
  channels : List Uuid := []

abbrev Bus := BusEvent → Except ServerError Unit

namespace Server

variable {Value : Type}

def onStore (inner : Effect Store Status Value) :
    Effect Server Status Value :=
  Effect.zoom (·.store) (fun store server => { server with store }) inner

def register (device : Uuid) (groups : List Uuid) :
    Effect Server Status Unit :=
  Effect.update fun server =>
    { server with
      registry := server.registry.register device groups
        server.channels.length
      channels := server.channels ++ [device] }

def unregister (device : Uuid) : Effect Server Status Unit :=
  Effect.update fun server =>
    { server with registry := server.registry.unregister device }

def subscribe (device group : Uuid) : Effect Server Status Unit :=
  Effect.update fun server =>
    { server with registry := server.registry.subscribe device group }

def publish (bus : Bus) (event : BusEvent) : Effect Server Status Unit :=
  orStatus (Effect.ofExcept (bus event))

section Outcome

variable {inner : Effect Store Status Value} {server : Server}
  {after : Store}

theorem onStore_of_ok {value : Value}
    (ran : inner server.store = (.ok value, after)) :
    onStore inner server = (.ok value, { server with store := after }) := by
  simp only [onStore, Effect.zoom, ran]

theorem onStore_of_error {status : Status}
    (ran : inner server.store = (.error status, after)) :
    onStore inner server =
      (.error status, { server with store := after }) := by
  simp only [onStore, Effect.zoom, ran]

@[simp] theorem onStore_result (inner : Effect Store Status Value)
    (server : Server) : (onStore inner server).1 = (inner server.store).1 :=
  rfl

@[simp] theorem onStore_store (inner : Effect Store Status Value)
    (server : Server) :
    (onStore inner server).2.store = (inner server.store).2 := rfl

theorem onStore_bind {Next : Type} (first : Effect Store Status Value)
    (rest : Value → Effect Store Status Next) :
    onStore (first >>= rest) = onStore first >>= fun value =>
      onStore (rest value) := by
  funext server
  rcases ran : first server.store with ⟨result, after⟩
  cases result with
  | ok value =>
      rw [Effect.bind_of_ok (onStore_of_ok ran)]
      simp only [onStore, Effect.zoom, Effect.bind_of_ok ran]
  | error status =>
      rw [Effect.bind_of_error (onStore_of_error ran),
        onStore_of_error (Effect.bind_of_error ran rest)]

theorem onStore_pure (value : Value) : onStore (pure value) = pure value := rfl

theorem readOnly_onStore (readOnly : inner.ReadOnly) :
    (onStore inner).ReadOnly := by
  intro server
  change { server with store := (inner server.store).2 } = server
  rw [readOnly]

/-- A sequence leaves the store as its store part does, if the rest does. -/
theorem onStore_bind_store {Next Other : Type}
    {rest : Value → Effect Server Status Next}
    {storeRest : Value → Effect Store Status Other}
    (agrees : ∀ value server,
      (rest value server).2.store = (storeRest value server.store).2) :
    ((onStore inner >>= rest) server).2.store =
      ((inner >>= storeRest) server.store).2 := by
  rcases ran : inner server.store with ⟨result, after⟩
  cases result with
  | ok value =>
      rw [Effect.bind_of_ok ran, Effect.bind_of_ok (onStore_of_ok ran)]
      exact agrees value _
  | error status =>
      rw [Effect.bind_of_error ran, Effect.bind_of_error (onStore_of_error ran)]

end Outcome

/-- What holds of the store, whatever the hub is in. -/
def OnStore (invariant : Store → Prop) (server : Server) : Prop :=
  invariant server.store

section OnStore

variable {invariant : Store → Prop}

theorem keeps_onStore {inner : Effect Store Status Value}
    (kept : inner.Keeps invariant) :
    (onStore inner).Keeps (OnStore invariant) :=
  fun server holds => kept server.store holds

theorem post_onStore {inner : Effect Store Status Value} {server : Server}
    (holds : inner.Post server.store fun _ after => invariant after) :
    (onStore inner).Post server fun _ after => OnStore invariant after :=
  holds

theorem keeps_subscribe (device group : Uuid) :
    (subscribe device group).Keeps (OnStore invariant) :=
  fun _ holds => holds

theorem keeps_publish (bus : Bus) (event : BusEvent) :
    (publish bus event).Keeps (OnStore invariant) :=
  fun _ holds => holds

end OnStore

end Server

namespace MessagingSvc

open Server

/-- `message_stream`, up to its effects on the tables. -/
def openStream (token : Option Claims) : Effect Server Status Unit := do
  let claims ← authenticate token
  let groups ← onStore (Effect.read (·.groupIdsForUser claims.sub))
  register claims.deviceId groups
  onStore (Effect.update fun store => (store.drainInbox claims.deviceId).2)

end MessagingSvc

structure WelcomeTarget where
  deviceId : Option IdText
  welcome : Bytes

namespace MlsRelaySvc

open Server

def requireGroupId (groupId : Option IdText) : Effect Server Status Uuid :=
  onStore (GroupSvc.requireGroupId groupId)

def requireDevice (target : WelcomeTarget) : Effect Server Status Uuid := do
  let text ← Effect.ofOption target.deviceId
    (ServerError.invalidArgument "welcome target needs device_id")
  Effect.ofOption text.parse (ServerError.invalidArgument "bad device id")

def relayWelcome (bus : Bus) (groupId : Uuid) (target : WelcomeTarget) :
    Effect Server Status Unit := do
  let device ← requireDevice target
  onStore (orStatus
    (Store.enqueueInbox device .welcome groupId target.welcome))
  publish bus (.welcome device groupId target.welcome)
  subscribe device groupId

structure SendCommitRequest where
  groupId : Option IdText
  commit : Bytes
  welcomes : List WelcomeTarget

def sendCommit (bus : Bus) (token : Option Claims)
    (req : SendCommitRequest) : Effect Server Status Unit := do
  let claims ← authenticate token
  let groupId ← requireGroupId req.groupId
  onStore (Effect.check (·.isMember groupId claims.sub)
    ServerError.permissionDenied)
  publish bus (.commit groupId req.commit 0 claims.deviceId)
  Effect.forEach (relayWelcome bus groupId) req.welcomes

structure SendWelcomeRequest where
  groupId : Option IdText
  welcomes : List WelcomeTarget

/-- Unlike `sendCommit` this does not ask whether the caller is a member. -/
def sendWelcome (bus : Bus) (token : Option Claims)
    (req : SendWelcomeRequest) : Effect Server Status Unit := do
  let _ ← authenticate token
  let groupId ← requireGroupId req.groupId
  Effect.forEach (relayWelcome bus groupId) req.welcomes

theorem keeps_relayWelcome {invariant : Store → Prop}
    (queues : ∀ device kind group payload,
      (Store.enqueueInbox device kind group payload).Keeps invariant)
    (bus : Bus) (groupId : Uuid) (target : WelcomeTarget) :
    (relayWelcome bus groupId target).Keeps (OnStore invariant) := by
  have parses : (requireDevice target).Keeps (OnStore invariant) :=
    ((Effect.readOnly_ofOption _ _).bind fun _ =>
      Effect.readOnly_ofOption _ _).keeps
  apply parses.bind
  intro device
  apply Effect.Keeps.bind (keeps_onStore ((queues _ _ _ _).mapError _))
  intro _
  apply Effect.Keeps.bind (keeps_publish bus _)
  intro _
  exact keeps_subscribe device groupId

end MlsRelaySvc

end Accord
