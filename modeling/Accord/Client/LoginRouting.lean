import Accord.Client.Sessions

/-! Where the outcome of a login ends up.  It belongs to the server whose
channel the login took; it is put where the active server is by then. -/

namespace Accord

def LoginOrigin.signer (derive : Identity.Derive) (master : IdentityKeyPair)
    (origin : LoginOrigin) : IdentityKeyPair :=
  if origin.server = "home" then Identity.contactIdentity derive master
  else Identity.deriveFor derive master origin.channel.cert
    origin.channel.endpoint

/-- What a login has put into the session was obtained over the channel of the
server. -/
structure Session.BelongsTo (session : Session) (server : String) :
    Prop where
  userId : ∀ issued ∈ session.userId, issued.server = server
  deviceId : ∀ issued ∈ session.deviceId, issued.server = server
  token : ∀ issued ∈ session.token, issued.server = server
  refreshToken : ∀ issued ∈ session.refreshToken, issued.server = server
  engine : ∀ issued ∈ session.engine, issued.server = server

structure Client.Sorted (derive : Identity.Derive) (client : Client) :
    Prop where
  sessions : ∀ server session,
    client.sessions.map.lookup server = some session →
      session.BelongsTo server
  signers : ∀ record ∈ client.signers,
    record.signer = record.origin.signer derive record.master
  homeSteps : ∀ step ∈ client.homeSteps, step.server = "home"

namespace ClientTask

/-- The server and the channel of a login that has taken one. -/
def origin? : ClientTask → Option LoginOrigin
  | identifying _ origin => some origin
  | authenticating _ origin _ => some origin
  | recovering _ origin _ => some origin
  | finishing _ origin _ => some origin
  | building _ origin _ _ => some origin
  | storing _ origin _ _ _ => some origin
  | starting _ origin _ => some origin
  | _ => none

/-- What a login has found that is about to build its engine. -/
def found? : ClientTask → Option (LoginOrigin × Found)
  | building _ origin _ found => some (origin, found)
  | _ => none

/-- What a login uses of an active session is of its own server: X was active
when it looked for the signer of a fresh engine and for home, and X is active
when it stores. -/
def Steady (client : Client) (input : ClientInput) : ClientTask → Prop
  | building _ origin _ found =>
      input.localEngine = none → input.restoredEngine = none →
        found.active = some origin.server
  | storing _ origin _ _ _ =>
      client.sessions.active = some origin.server
  | starting _ origin found =>
      input.streamOpened = true → found.isHome = true →
        found.active = some origin.server
  | _ => True

instance (client : Client) (input : ClientInput) (task : ClientTask) :
    Decidable (task.Steady client input) :=
  match task with
  | building _ origin _ found => inferInstanceAs (Decidable
      (input.localEngine = none → input.restoredEngine = none →
        found.active = some origin.server))
  | storing _ origin _ _ _ => inferInstanceAs (Decidable
      (client.sessions.active = some origin.server))
  | starting _ origin found => inferInstanceAs (Decidable
      (input.streamOpened = true → found.isHome = true →
        found.active = some origin.server))
  | connecting .. | activating .. | opening .. | identifying ..
  | authenticating .. | recovering .. | finishing .. | done =>
      isTrue trivial

/-- A connect is for a server that no login in flight is for. -/
def Elsewhere (tasks : List ClientTask) : ClientTask → Prop
  | connecting server _ =>
      ∀ task ∈ tasks, ∀ origin ∈ task.origin?, origin.server ≠ server
  | _ => True

instance (tasks : List ClientTask) (task : ClientTask) :
    Decidable (task.Elsewhere tasks) :=
  match task with
  | connecting server _ => inferInstanceAs (Decidable
      (∀ task ∈ tasks, ∀ origin ∈ task.origin?, origin.server ≠ server))
  | activating .. | opening .. | identifying .. | authenticating ..
  | recovering .. | finishing .. | building .. | storing ..
  | starting .. | done => isTrue trivial

end ClientTask

namespace ClientPool

/-- Connects are for other servers than those being logged in to. -/
def Elsewhere (pool : ClientPool) : ClientEvent → Prop
  | .start _ => True
  | .turn index _ =>
      ∀ task ∈ pool.tasks[index]?, task.Elsewhere pool.tasks

/-- No login uses an active session other than that of its server. -/
def Unswitched (pool : ClientPool) : ClientEvent → Prop
  | .start _ => True
  | .turn index input =>
      ∀ task ∈ pool.tasks[index]?, task.Steady pool.shared input

instance (pool : ClientPool) (event : ClientEvent) :
    Decidable (Elsewhere pool event) :=
  match event with
  | .start _ => isTrue trivial
  | .turn index _ => inferInstanceAs (Decidable
      (∀ task ∈ pool.tasks[index]?, task.Elsewhere pool.tasks))

instance (pool : ClientPool) (event : ClientEvent) :
    Decidable (Unswitched pool event) :=
  match event with
  | .start _ => isTrue trivial
  | .turn index input => inferInstanceAs (Decidable
      (∀ task ∈ pool.tasks[index]?, task.Steady pool.shared input))

end ClientPool

/-- The server of a login is still connected over the channel the login took,
and if that server was active when the login looked, it found its session. -/
structure ClientTask.Grounded (map : Mapping String Session)
    (task : ClientTask) : Prop where
  taken : ∀ origin ∈ task.origin?, ∃ session,
    map.lookup origin.server = some session ∧
      session.channel = some origin.channel
  found : ∀ origin found, task.found? = some (origin, found) →
    found.active = some origin.server →
    found.endpoint = origin.channel.endpoint ∧
      found.cert = origin.channel.cert

/-- A session names the endpoint and the certificate of its channel. -/
def Session.Matches (session : Session) : Prop :=
  ∀ channel ∈ session.channel,
    session.endpoint = some channel.endpoint ∧ session.cert = channel.cert

structure ClientKept (derive : Identity.Derive) (client : Client)
    (tasks : List ClientTask) : Prop where
  sorted : client.Sorted derive
  built : ∀ server session,
    client.sessions.map.lookup server = some session → session.Matches
  tasks : ∀ task ∈ tasks, task.Grounded client.sessions.map

namespace ClientKept

variable {derive : Identity.Derive} {client after : Client}
  {old new : ClientTask} {tasks rest : List ClientTask}

theorem head (kept : ClientKept derive client (old :: rest)) :
    old.Grounded client.sessions.map :=
  kept.tasks old List.mem_cons_self

theorem tail (kept : ClientKept derive client (old :: rest)) :
    ∀ task ∈ rest, task.Grounded client.sessions.map :=
  (List.forall_mem_cons.mp kept.tasks).2

theorem of_map (kept : ClientKept derive client tasks)
    (same : after.sessions.map = client.sessions.map)
    (signers : ∀ record ∈ after.signers,
      record.signer = record.origin.signer derive record.master)
    (homeSteps : ∀ step ∈ after.homeSteps, step.server = "home") :
    ClientKept derive after tasks where
  sorted := ⟨same ▸ kept.sorted.sessions, signers, homeSteps⟩
  built := same ▸ kept.built
  tasks := same ▸ kept.tasks

theorem replace (kept : ClientKept derive client (old :: rest))
    (grounded : new.Grounded client.sessions.map) :
    ClientKept derive client (new :: rest) where
  sorted := kept.sorted
  built := kept.built
  tasks := List.forall_mem_cons.mpr ⟨grounded, kept.tail⟩

theorem pass (kept : ClientKept derive client (old :: rest))
    (same : ∀ origin ∈ new.origin?, origin ∈ old.origin?)
    (passive : new.found? = none) :
    ClientKept derive client (new :: rest) := by
  refine kept.replace ⟨?_, ?_⟩
  · intro origin held
    exact kept.head.taken origin (same origin held)
  · intro origin found seen
    rw [passive] at seen
    cases seen

theorem finish (kept : ClientKept derive client (old :: rest)) :
    ClientKept derive client (.done :: rest) :=
  kept.pass (fun _ held => nomatch held) rfl

theorem write (kept : ClientKept derive client tasks) {server : String}
    {session : Session} (belongs : session.BelongsTo server)
    (built : session.Matches)
    (taken : ∀ task ∈ tasks, ∀ origin ∈ task.origin?,
      origin.server = server → session.channel = some origin.channel)
    (active : Option String) :
    ClientKept derive
      { client with
        sessions := ⟨client.sessions.map.insert server session, active⟩ }
      tasks where
  sorted := by
    refine ⟨?_, kept.sorted.signers, kept.sorted.homeSteps⟩
    intro other entry stored
    cases Mapping.insert_cases stored with
    | inl changed =>
        obtain ⟨rfl, rfl⟩ := changed
        exact belongs
    | inr unchanged => exact kept.sorted.sessions other entry unchanged.2
  built := by
    intro other entry stored
    cases Mapping.insert_cases stored with
    | inl changed =>
        obtain ⟨rfl, rfl⟩ := changed
        exact built
    | inr unchanged => exact kept.built other entry unchanged.2
  tasks := by
    intro task listed
    refine ⟨?_, (kept.tasks task listed).found⟩
    intro origin held
    rw [Mapping.lookup_insert_eq]
    by_cases same : origin.server = server
    · rw [if_pos same]
      exact ⟨session, rfl, taken task listed origin held same⟩
    · rw [if_neg same]
      exact (kept.tasks task listed).taken origin held

theorem connect {server : String} {channel : GrpcChannel}
    (kept : ClientKept derive client (.connecting server channel :: rest))
    (elsewhere : ∀ task ∈ rest, ∀ origin ∈ task.origin?,
      origin.server ≠ server) :
    ClientKept derive
      { client with sessions := client.sessions.connect server channel }
      (.done :: rest) := by
  refine kept.finish.write ?_ ?_ ?_ _
  · unfold Sessions.entry
    cases known : client.sessions.map.lookup server with
    | none =>
        constructor <;>
        · intro issued held
          cases held
    | some before =>
        have belongs := kept.sorted.sessions server before known
        exact ⟨belongs.userId, belongs.deviceId, belongs.token,
          belongs.refreshToken, belongs.engine⟩
  · intro opened held
    cases held
    exact ⟨rfl, rfl⟩
  · intro task listed origin held same
    cases List.mem_cons.mp listed with
    | inl first =>
        subst first
        cases held
    | inr listed => exact absurd same (elsewhere task listed origin held)

theorem setActive (kept : ClientKept derive client tasks)
    (server : String) :
    ClientKept derive
      { client with sessions := client.sessions.setActive server } tasks := by
  refine kept.of_map ?_ kept.sorted.signers kept.sorted.homeSteps
  change (client.sessions.setActive server).map = client.sessions.map
  unfold Sessions.setActive
  split <;> rfl

section Login

variable {username : String} {origin : LoginOrigin}
  {credentials : Credentials} {found : Found} {engine : MlsEngine}

private theorem activeSession_of_active {sessions : Sessions} {server : String}
    (active : sessions.active = some server) :
    sessions.activeSession = sessions.map.lookup server := by
  unfold Sessions.activeSession
  rw [active]
  rfl

theorem openChannel {kind : LoginKind}
    (kept : ClientKept derive client (old :: rest)) :
    ClientKept derive client
      (ClientTask.openChannel client kind username :: rest) := by
  unfold ClientTask.openChannel
  cases active : client.sessions.active with
  | none => exact kept.finish
  | some server =>
      cases opened : client.sessions.activeChannel with
      | none => exact kept.finish
      | some channel =>
          have stored : ∃ session,
              client.sessions.map.lookup server = some session ∧
                session.channel = some channel := by
            unfold Sessions.activeChannel at opened
            rw [activeSession_of_active active] at opened
            exact Option.bind_eq_some_iff.mp opened
          have taken : ∀ other ∈ some (⟨server, channel⟩ : LoginOrigin),
              ∃ session, client.sessions.map.lookup other.server =
                some session ∧ session.channel = some other.channel := by
            intro other held
            cases held
            exact stored
          cases kind with
          | password => exact kept.replace ⟨taken, nofun⟩
          | key => exact kept.replace ⟨taken, nofun⟩

/-- If the server of the login is active, what is found is its session. -/
theorem find (kept : ClientKept derive client
      (.finishing username origin credentials :: rest)) :
    ClientKept derive client (.building username origin credentials
      (ClientTask.find client.sessions) :: rest) := by
  refine kept.replace ⟨kept.head.taken, ?_⟩
  intro other seen looked active
  cases looked
  obtain ⟨session, stored, held⟩ := kept.head.taken origin rfl
  obtain ⟨endpoint, cert⟩ :=
    kept.built origin.server session stored origin.channel held
  have here : client.sessions.activeSession = some session :=
    (activeSession_of_active active).trans stored
  simp only [ClientTask.find, here, Option.bind_some, endpoint,
    Option.getD_some, cert, and_self]

private theorem signer_of_found (active : found.active = some origin.server)
    (endpoint : found.endpoint = origin.channel.endpoint)
    (cert : found.cert = origin.channel.cert) (master : IdentityKeyPair) :
    found.signer derive master = origin.signer derive master := by
  unfold Found.signer LoginOrigin.signer Found.isHome
  rw [active, endpoint, cert]
  by_cases home : origin.server = "home"
  · simp [home]
  · simp [home]

theorem build {input : ClientInput}
    (kept : ClientKept derive client
      (.building username origin credentials found :: rest))
    (steady : ClientTask.Steady client input
      (.building username origin credentials found)) :
    ClientKept derive
      (ClientTask.build derive client username origin credentials found
        input).1
      ((ClientTask.build derive client username origin credentials found
        input).2 :: rest) := by
  have next : ∀ engine, ClientKept derive client
      ((if input.packagesUploaded then
        ClientTask.storing username origin credentials found engine
      else .done) :: rest) := by
    intro engine
    cases input.packagesUploaded with
    | true => exact kept.pass (fun _ held => held) rfl
    | false => exact kept.finish
  unfold ClientTask.build
  cases input.master with
  | none => exact kept.finish
  | some master =>
      simp only
      cases cached : input.localEngine with
      | some bytes => exact next _
      | none =>
          cases restored : input.restoredEngine with
          | some bytes => exact next _
          | none =>
              simp only
              cases input.engineBuilt with
              | false => exact kept.finish
              | true =>
                  have active := steady cached restored
                  obtain ⟨endpoint, cert⟩ :=
                    kept.head.found origin found rfl active
                  refine (next _).of_map rfl ?_ kept.sorted.homeSteps
                  refine List.forall_mem_append.mpr
                    ⟨kept.sorted.signers, ?_⟩
                  refine List.forall_mem_singleton.mpr ?_
                  exact signer_of_found active endpoint cert master

private theorem belongsTo_attach (session : Session) (server : String) :
    (session.attach server credentials engine).BelongsTo server := by
  constructor <;>
  · intro issued held
    cases held
    rfl

theorem store (kept : ClientKept derive client
      (.storing username origin credentials found engine :: rest))
    (active : client.sessions.active = some origin.server) :
    ClientKept derive
      (ClientTask.store client username origin credentials found engine).1
      ((ClientTask.store client username origin credentials found
        engine).2 :: rest) := by
  obtain ⟨session, stored, _⟩ := kept.head.taken origin rfl
  have looked : client.sessions.activeSession = some session :=
    (activeSession_of_active active).trans stored
  have passed : ClientKept derive client
      (.starting username origin found :: rest) :=
    kept.pass (fun _ held => held) rfl
  unfold ClientTask.store
  simp only [active, looked]
  refine passed.write (belongsTo_attach session origin.server) ?_ ?_ _
  · exact kept.built origin.server session stored
  · intro task listed other held same
    obtain ⟨entry, known, opened⟩ :=
      (passed.tasks task listed).taken other held
    rw [same, stored] at known
    cases known
    exact opened

end Login

theorem advance {task : ClientTask} {input : ClientInput}
    (kept : ClientKept derive client (task :: rest))
    (elsewhere : task.Elsewhere rest)
    (steady : task.Steady client input) :
    ClientKept derive (task.advance derive client input).1
      ((task.advance derive client input).2 :: rest) := by
  cases task with
  | connecting server channel =>
      simp only [ClientTask.advance]
      cases input.channelBuilt with
      | true => exact kept.connect elsewhere
      | false => exact kept.finish
  | activating server => exact kept.finish.setActive server
  | opening kind username => exact kept.openChannel
  | identifying username origin =>
      simp only [ClientTask.advance, ClientTask.identify]
      split
      · exact kept.pass (fun _ held => held) rfl
      · exact kept.finish
  | authenticating username origin derived =>
      simp only [ClientTask.advance, ClientTask.authenticate]
      cases input.response with
      | none => exact kept.finish
      | some credentials =>
          cases derived with
          | some key => exact kept.pass (fun _ held => held) rfl
          | none => exact kept.pass (fun _ held => held) rfl
  | recovering username origin credentials =>
      simp only [ClientTask.advance]
      cases input.backupSynced with
      | true => exact kept.pass (fun _ held => held) rfl
      | false => exact kept.finish
  | finishing username origin credentials => exact kept.find
  | building username origin credentials found => exact kept.build steady
  | storing username origin credentials found engine =>
      exact kept.store steady
  | starting username origin found =>
      simp only [ClientTask.advance]
      cases runs : input.streamOpened && found.isHome with
      | false => exact kept.finish
      | true =>
          rw [Bool.and_eq_true] at runs
          have active := steady runs.1 runs.2
          have home : found.active = some "home" := by
            simpa [Found.isHome] using runs.2
          refine kept.finish.of_map rfl kept.sorted.signers ?_
          refine List.forall_mem_append.mpr ⟨kept.sorted.homeSteps, ?_⟩
          refine List.forall_mem_singleton.mpr ?_
          exact Option.some.inj (active.symm.trans home)
  | done => exact kept

theorem of_mem {others : List ClientTask}
    (kept : ClientKept derive client tasks)
    (same : ∀ task, task ∈ others ↔ task ∈ tasks) :
    ClientKept derive client others where
  sorted := kept.sorted
  built := kept.built
  tasks := fun task listed => kept.tasks task ((same task).mp listed)

theorem start (command : ClientCommand)
    (kept : ClientKept derive client tasks) :
    ClientKept derive client (tasks ++ [ClientTask.enter command]) := by
  refine ⟨kept.sorted, kept.built, ?_⟩
  refine List.forall_mem_append.mpr ⟨kept.tasks, ?_⟩
  refine List.forall_mem_singleton.mpr ?_
  cases command with
  | connect server channel => exact ⟨nofun, nofun⟩
  | setActiveServer server => exact ⟨nofun, nofun⟩
  | login kind username => exact ⟨nofun, nofun⟩

end ClientKept

theorem ClientTask.Elsewhere.of_mem {task : ClientTask}
    {tasks others : List ClientTask} (elsewhere : task.Elsewhere tasks)
    (listed : ∀ other ∈ others, other ∈ tasks) : task.Elsewhere others := by
  cases task with
  | connecting server channel =>
      exact fun other member => elsewhere other (listed other member)
  | _ => trivial

namespace ClientPool

/-- In a run in which no login uses the session of another server, every login
ends up with its own. -/
theorem sorted_of_unswitched (derive : Identity.Derive)
    (events : List ClientEvent)
    (elsewhere : EventRun.Each (clientMachine derive).step Elsewhere
      ⟨{}, []⟩ events)
    (unswitched : EventRun.Each (clientMachine derive).step Unswitched
      ⟨{}, []⟩ events) :
    EventRun.Always (clientMachine derive).step
      (fun pool => pool.shared.Sorted derive) ⟨{}, []⟩ events := by
  have initially : ClientKept derive {} [] := by
    refine ⟨⟨?_, nofun, nofun⟩, ?_, nofun⟩
    · intro server session stored
      cases stored
    · intro server session stored
      cases stored
  have always : EventRun.Always (clientMachine derive).step
      (fun pool => ClientKept derive pool.shared pool.tasks)
      ⟨{}, []⟩ events := by
    refine Tasks.Machine.always_of_advance (ClientKept derive)
      ClientKept.of_mem ClientKept.start ?_ initially
      (elsewhere.and unswitched)
    intro pool index task input present both kept
    have apart : task.Elsewhere (pool.tasks.eraseIdx index) :=
      (both.1 task present).of_mem fun _ => List.mem_of_mem_eraseIdx
    exact kept.advance apart (both.2 task present)
  exact always.imp fun pool kept => kept.sorted

/-! A login to home, during which the client connects to a tavern. -/

def homeChannel : GrpcChannel := ⟨"https://127.0.0.1:50051", some "home"⟩

def tavernChannel : GrpcChannel := ⟨"https://tavern:50051", some "tavern"⟩

def contextKey : Identity.Derive := fun master context =>
  ⟨(context.toList.map (fun char => UInt8.ofNat char.toNat) ++
    master.toList).take 32, by simp⟩

def answers : ClientInput where
  master := some (.replicate 32 7)
  response := some ⟨"alice", "laptop", "access", "refresh"⟩

def turnsOf (index count : ℕ) : List ClientEvent :=
  List.replicate count (.turn index answers)

def switchedLogin : List ClientEvent :=
  [.start (.connect "home" homeChannel)] ++ turnsOf 0 1 ++
    [.start (.login .password "alice")] ++ turnsOf 1 1 ++
    [.start (.connect "tavern" tavernChannel)] ++ turnsOf 2 1 ++
    turnsOf 1 5

/-- The token for home ends up in the session of the tavern. -/
theorem switchedLogin_misplaced :
    EventRun.Each (clientMachine contextKey).step Elsewhere ⟨{}, []⟩
        switchedLogin ∧
      ¬ EventRun.Always (clientMachine contextKey).step
        (fun pool => pool.shared.Sorted contextKey) ⟨{}, []⟩
        switchedLogin := by
  refine ⟨by decide +kernel, ?_⟩
  intro always
  have stored : ∃ session, (EventRun.run (clientMachine contextKey).step
      ⟨{}, []⟩ switchedLogin).shared.sessions.map.lookup "tavern" =
        some session ∧ session.token = some ⟨"access", "home"⟩ := by
    refine ⟨_, rfl, ?_⟩
    decide +kernel
  obtain ⟨session, found, token⟩ := stored
  have server := (always.last.sessions "tavern" session found).token _ token
  exact absurd server (by decide)

/-- The same commands, one after the other, and a login to the tavern. -/
def loginsInTurn : List ClientEvent :=
  [.start (.connect "home" homeChannel)] ++ turnsOf 0 1 ++
    [.start (.login .password "alice")] ++ turnsOf 1 7 ++
    [.start (.connect "tavern" tavernChannel)] ++ turnsOf 2 1 ++
    [.start (.login .key "alice")] ++ turnsOf 3 7

theorem loginsInTurn_sorted :
    EventRun.Each (clientMachine contextKey).step Elsewhere ⟨{}, []⟩
        loginsInTurn ∧
      EventRun.Each (clientMachine contextKey).step Unswitched ⟨{}, []⟩
        loginsInTurn ∧
      EventRun.Always (clientMachine contextKey).step
        (fun pool => pool.shared.Sorted contextKey) ⟨{}, []⟩
        loginsInTurn := by
  have elsewhere : EventRun.Each (clientMachine contextKey).step Elsewhere
      ⟨{}, []⟩ loginsInTurn := by
    decide +kernel
  have unswitched : EventRun.Each (clientMachine contextKey).step Unswitched
      ⟨{}, []⟩ loginsInTurn := by
    decide +kernel
  exact ⟨elsewhere, unswitched,
    sorted_of_unswitched contextKey loginsInTurn elsewhere unswitched⟩

end ClientPool

end Accord
