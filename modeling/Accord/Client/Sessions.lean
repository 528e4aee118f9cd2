import Accord.Client.Identity
import Accord.Library.Nested
import Accord.Library.Tasks

/-! The sessions of the client and the commands that log in, await by await.
A login takes the channel of the server that is active when it starts, and
looks the active session up again after its network calls. -/

namespace Accord

structure GrpcChannel where
  endpoint : String
  cert : Option String
  deriving DecidableEq

/-- A value and the server over whose channel it was obtained.  The code keeps
no record of the server. -/
structure Issued (Value : Type) where
  value : Value
  server : String
  deriving DecidableEq

inductive MlsEngine where
  | deserialized (bytes : Bytes)
  | fresh (signer : IdentityKeyPair)
  deriving DecidableEq

structure Credentials where
  userId : String
  deviceId : String
  token : String
  refreshToken : String
  deriving DecidableEq

structure Session where
  channel : Option GrpcChannel := none
  endpoint : Option String := none
  cert : Option String := none
  userId : Option (Issued String) := none
  deviceId : Option (Issued String) := none
  token : Option (Issued String) := none
  refreshToken : Option (Issued String) := none
  engine : Option (Issued MlsEngine) := none

structure Sessions where
  map : Mapping String Session := ∅
  active : Option String := none

namespace Sessions

variable (sessions : Sessions)

def activeSession : Option Session :=
  sessions.active.bind fun id => sessions.map.lookup id

def activeChannel : Option GrpcChannel :=
  sessions.activeSession.bind (·.channel)

def entry (id : String) : Session :=
  (sessions.map.lookup id).getD {}

def connect (id : String) (channel : GrpcChannel) : Sessions where
  map := sessions.map.insert id
    { sessions.entry id with
      channel := some channel
      endpoint := some channel.endpoint
      cert := channel.cert }
  active := some id

def setActive (id : String) : Sessions :=
  if id ∈ sessions.map then { sessions with active := some id } else sessions

end Sessions

def Session.attach (session : Session) (server : String)
    (credentials : Credentials) (engine : MlsEngine) : Session :=
  { session with
    userId := some ⟨credentials.userId, server⟩
    deviceId := some ⟨credentials.deviceId, server⟩
    token := some ⟨credentials.token, server⟩
    refreshToken := some ⟨credentials.refreshToken, server⟩
    engine := some ⟨engine, server⟩ }

namespace Identity

/-- `derive` is `derive_for_context`. -/
abbrev Derive := IdentityKeyPair → String → IdentityKeyPair

variable (derive : Derive) (master : IdentityKeyPair)

def contactIdentity : IdentityKeyPair :=
  derive master "accord:contact-identity"

def deriveFor (cert : Option String) (endpoint : String) :
    IdentityKeyPair :=
  derive master (cert.getD endpoint)

end Identity

inductive LoginKind where
  | password
  | key

/-- The server a login is for, and the channel it took. -/
structure LoginOrigin where
  server : String
  channel : GrpcChannel
  deriving DecidableEq

/-- What `finish_session` finds when it looks up the active session. -/
structure Found where
  active : Option String
  endpoint : String
  cert : Option String

namespace Found

def isHome (found : Found) : Bool :=
  found.active == some "home"

/-- Home signs with the contact identity, a tavern with its own key. -/
def signer (derive : Identity.Derive) (master : IdentityKeyPair)
    (found : Found) : IdentityKeyPair :=
  if found.isHome then Identity.contactIdentity derive master
  else Identity.deriveFor derive master found.cert found.endpoint

end Found

inductive ClientCommand where
  | connect (server : String) (channel : GrpcChannel)
  | setActiveServer (server : String)
  | login (kind : LoginKind) (username : String)

inductive ClientTask where
  | connecting (server : String) (channel : GrpcChannel)
  | activating (server : String)
  | opening (kind : LoginKind) (username : String)
  | identifying (username : String) (origin : LoginOrigin)
  | authenticating (username : String) (origin : LoginOrigin)
      (derived : Option IdentityKeyPair)
  | recovering (username : String) (origin : LoginOrigin)
      (credentials : Credentials)
  | finishing (username : String) (origin : LoginOrigin)
      (credentials : Credentials)
  | building (username : String) (origin : LoginOrigin)
      (credentials : Credentials) (found : Found)
  | storing (username : String) (origin : LoginOrigin)
      (credentials : Credentials) (found : Found) (engine : MlsEngine)
  | starting (username : String) (origin : LoginOrigin) (found : Found)
  | done

structure ClientInput where
  channelBuilt : Bool := true
  master : Option IdentityKeyPair := none
  response : Option Credentials := none
  backupSynced : Bool := true
  localEngine : Option Bytes := none
  restoredEngine : Option Bytes := none
  engineBuilt : Bool := true
  packagesUploaded : Bool := true
  streamOpened : Bool := true

structure SignerRecord where
  origin : LoginOrigin
  master : IdentityKeyPair
  signer : IdentityKeyPair

/-- `homeSteps` are the usernames the steps for home were run with. -/
structure Client where
  sessions : Sessions := {}
  signers : List SignerRecord := []
  homeSteps : List (Issued String) := []

namespace ClientTask

variable (derive : Identity.Derive)

def enter : ClientCommand → ClientTask
  | .connect server channel => connecting server channel
  | .setActiveServer server => activating server
  | .login kind username => opening kind username

/-- `require_channel`. -/
def openChannel (client : Client) (kind : LoginKind) (username : String) :
    ClientTask :=
  match client.sessions.active, client.sessions.activeChannel with
  | some server, some channel =>
      match kind with
      | .password => authenticating username ⟨server, channel⟩ none
      | .key => identifying username ⟨server, channel⟩
  | _, _ => done

/-- The key that signs the challenge is that of the session that is active
now. -/
def identify (client : Client) (username : String) (origin : LoginOrigin)
    (input : ClientInput) : ClientTask :=
  match client.sessions.activeSession, input.master with
  | some session, some master =>
      authenticating username origin (some (Identity.deriveFor derive master
        session.cert (session.endpoint.getD "")))
  | _, _ => done

/-- A password login recovers the master key from its backup first. -/
def authenticate (username : String) (origin : LoginOrigin)
    (derived : Option IdentityKeyPair) (input : ClientInput) : ClientTask :=
  match input.response with
  | some credentials =>
      if derived.isSome then finishing username origin credentials
      else recovering username origin credentials
  | none => done

def find (sessions : Sessions) : Found where
  active := sessions.active
  endpoint := (sessions.activeSession.bind (·.endpoint)).getD ""
  cert := sessions.activeSession.bind (·.cert)

/-- The engine is the local one, that of the vault, or a fresh one. -/
def build (client : Client) (username : String) (origin : LoginOrigin)
    (credentials : Credentials) (found : Found) (input : ClientInput) :
    Client × ClientTask :=
  match input.master with
  | none => (client, done)
  | some master =>
      let next engine :=
        if input.packagesUploaded then
          storing username origin credentials found engine
        else
          done
      match input.localEngine, input.restoredEngine with
      | some bytes, _ => (client, next (.deserialized bytes))
      | none, some bytes => (client, next (.deserialized bytes))
      | none, none =>
          if input.engineBuilt then
            let signer := found.signer derive master
            ({ client with
                signers := client.signers ++ [⟨origin, master, signer⟩] },
              next (.fresh signer))
          else
            (client, done)

/-- The credentials go into the session that is active now. -/
def store (client : Client) (username : String) (origin : LoginOrigin)
    (credentials : Credentials) (found : Found) (engine : MlsEngine) :
    Client × ClientTask :=
  match client.sessions.active, client.sessions.activeSession with
  | some id, some session =>
      ({ client with
          sessions := { client.sessions with
            map := client.sessions.map.insert id
              (session.attach origin.server credentials engine) } },
        starting username origin found)
  | some _, none => (client, starting username origin found)
  | none, _ => (client, done)

def advance (client : Client) (task : ClientTask) (input : ClientInput) :
    Client × ClientTask :=
  match task with
  | connecting server channel =>
      if input.channelBuilt then
        ({ client with
            sessions := client.sessions.connect server channel }, done)
      else
        (client, done)
  | activating server =>
      ({ client with sessions := client.sessions.setActive server }, done)
  | opening kind username => (client, openChannel client kind username)
  | identifying username origin =>
      (client, identify derive client username origin input)
  | authenticating username origin derived =>
      (client, authenticate username origin derived input)
  | recovering username origin credentials =>
      (client,
        if input.backupSynced then finishing username origin credentials
        else done)
  | finishing username origin credentials =>
      (client, building username origin credentials (find client.sessions))
  | building username origin credentials found =>
      build derive client username origin credentials found input
  | storing username origin credentials found engine =>
      store client username origin credentials found engine
  | starting username origin found =>
      if input.streamOpened && found.isHome then
        ({ client with
            homeSteps := client.homeSteps ++ [⟨username, origin.server⟩] },
          done)
      else
        (client, done)
  | done => (client, done)

end ClientTask

abbrev ClientPool := Tasks.Pool Client ClientTask

abbrev ClientEvent := Tasks.Event ClientCommand ClientInput

def clientMachine (derive : Identity.Derive) :
    Tasks.Machine Client ClientCommand ClientTask ClientInput where
  enter := ClientTask.enter
  advance := ClientTask.advance derive

end Accord
