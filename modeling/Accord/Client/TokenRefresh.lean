import Accord.Server.Auth.Rotation

/-! A session of the client and its refresh requests, over the server's turns.
Answers may overtake each other, get lost, or come when the user has signed in
anew, and tokens expire. -/

namespace Accord

open AuthSvc (RefreshTokenResponse)

def RefreshRow.claims (row : RefreshRow) : Claims := ⟨row.userId, row.deviceId⟩

private theorem Store.new_of_acceptsRefreshToken {store : Store}
    {row : RefreshRow}
    (accepted : store.acceptsRefreshToken row = true) :
    ∀ before ∈ store.refreshTokens, before.token ≠ row.token := by
  simp only [acceptsRefreshToken, Bool.and_eq_true, Bool.not_eq_true',
    List.any_eq_false, beq_iff_eq] at accepted
  exact accepted.1

/-- What the schema demands of the stored tokens. -/
structure Store.TokensSound (store : Store) : Prop where
  unique : ∀ first ∈ store.refreshTokens, ∀ second ∈ store.refreshTokens,
    first.token = second.token → first = second
  referenced : ∀ row ∈ store.refreshTokens, store.referencesHold
    (store.hasUser row.userId && store.hasDevice row.deviceId) = true

namespace Store.TokensSound

variable {store : Store} (sound : store.TokensSound)

include sound

theorem storeRefreshToken {row : RefreshRow}
    (accepted : store.acceptsRefreshToken row = true) :
    ({ store with refreshTokens := store.refreshTokens ++ [row] } :
      Store).TokensSound := by
  have new := Store.new_of_acceptsRefreshToken accepted
  rw [acceptsRefreshToken, Bool.and_eq_true] at accepted
  constructor
  · intro first firstStored second secondStored named
    rcases List.mem_append.mp firstStored with firstOld | added
    · rcases List.mem_append.mp secondStored with secondOld | also
      · exact sound.unique first firstOld second secondOld named
      · rw [List.mem_singleton.mp also] at named
        exact absurd named (new first firstOld)
    · rcases List.mem_append.mp secondStored with secondOld | also
      · rw [List.mem_singleton.mp added] at named
        exact absurd named.symm (new second secondOld)
      · rw [List.mem_singleton.mp added, List.mem_singleton.mp also]
  · intro other stored
    rcases List.mem_append.mp stored with old | added
    · exact sound.referenced other old
    · rw [List.mem_singleton.mp added]
      exact accepted.2

theorem deleteRefreshToken (token : String) :
    (store.deleteRefreshToken token).TokensSound where
  unique first firstStored second secondStored :=
    sound.unique first (List.mem_of_mem_filter firstStored) second
      (List.mem_of_mem_filter secondStored)
  referenced row stored :=
    sound.referenced row (List.mem_of_mem_filter stored)

end Store.TokensSound

/-- `replies` is what the requests answer that minted, and `waiting` are the
requests whose answers tasks of the session await.  `clock` is the server's.
`fence` and `account` record when and as whom the user signed in last; the
client keeps no such record. -/
structure TokenSession where
  rotation : Rotation
  replies : Mapping ℕ RefreshTokenResponse := ∅
  held : Option RefreshTokenResponse := none
  waiting : List ℕ := []
  clock : Int := 0
  fence : ℕ := 0
  account : Claims := ⟨0, 0⟩

/-- `lose` is a request that fails on its way, or whose task is aborted. -/
inductive SessionEvent where
  | server (event : RotationEvent)
  | finishSession (row : RefreshRow)
  | refreshAccessToken
  | receive (request : ℕ)
  | lose (request : ℕ)
  | wait (now : Int)

namespace TokenSession

def answered (session : TokenSession) :
    RotationEvent → Mapping ℕ RefreshTokenResponse
  | .mint index drawn =>
      match session.rotation.requests[index]? with
      | some ⟨_, .minting row⟩ =>
          session.replies.insert index ⟨row.claims, drawn.token⟩
      | _ => session.replies
  | _ => session.replies

def wait (session : TokenSession) (now : Int) : TokenSession :=
  { session with clock := now }

def time (session : TokenSession) : RotationEvent → Int
  | .lookup _ now => now
  | .mint _ drawn => drawn.now
  | _ => session.clock

def server (session : TokenSession) (event : RotationEvent) : TokenSession :=
  { session.wait (session.time event) with
    rotation := session.rotation.step event
    replies := session.answered event }

/-- The credentials of a login are stored; the tasks of the session before are
aborted only afterwards. -/
def finishSession (session : TokenSession) (row : RefreshRow) : TokenSession :=
  { session with
    held := some ⟨row.claims, row.token⟩
    fence := session.rotation.requests.length
    account := row.claims }

def refreshAccessToken (session : TokenSession) : TokenSession :=
  match session.held with
  | some pair =>
      { session with
        rotation := session.rotation.present pair.refreshToken
        waiting := session.waiting ++ [session.rotation.requests.length] }
  | none => session

def settle (session : TokenSession) (request : ℕ) : TokenSession :=
  { session with waiting := session.waiting.filter (· != request) }

def keep (session : TokenSession) (reply : RefreshTokenResponse) :
    RefreshTokenResponse :=
  match session.held with
  | some pair =>
      if reply.refreshToken == "" then
        ⟨reply.accessToken, pair.refreshToken⟩
      else
        reply
  | none => reply

def receive (session : TokenSession) (request : ℕ) : TokenSession :=
  if request ∈ session.waiting then
    match session.rotation.requests[request]? with
    | some ⟨_, .succeeded⟩ =>
        match session.replies.lookup request with
        | some reply =>
            { session.settle request with held := some (session.keep reply) }
        | none => session
    | some ⟨_, .refused⟩ => session.settle request
    | _ => session
  else
    session

def step (session : TokenSession) : SessionEvent → TokenSession
  | .server event => session.server event
  | .finishSession row => session.finishSession row
  | .refreshAccessToken => session.refreshAccessToken
  | .receive request => session.receive request
  | .lose request => session.settle request
  | .wait now => session.wait now

def start (store : Store) : TokenSession where
  rotation := { store := store }

/-- A task of the session that is signed in awaits the answer. -/
def Current (session : TokenSession) (request : ℕ) : Prop :=
  request ∈ session.waiting ∧ session.fence ≤ request

/-- A refresh with the token, for which a new one is drawn, succeeds at the
time, for the account and the device that signed in. -/
def Redeems (session : TokenSession) (token : String) : Prop :=
  ∀ drawn : AuthSvc.Mint, drawn.now = session.clock →
    (∀ row ∈ session.rotation.store.refreshTokens,
      row.token ≠ drawn.token) →
    (AuthSvc.refreshToken drawn token session.rotation.store).1 =
      .ok ⟨session.account, drawn.token⟩

/-- The token is stored for the account and the device that signed in, and has
not expired. -/
def Live (session : TokenSession) (token : String) : Prop :=
  ∃ row ∈ session.rotation.store.refreshTokens, row.token = token ∧
    row.claims = session.account ∧ session.clock ≤ row.expiresAt

def Own (session : TokenSession) (token : String) : Prop :=
  ∀ row ∈ session.rotation.store.refreshTokens,
    row.token = token → row.claims = session.account

structure Fresh (session : TokenSession) (token : String) : Prop where
  nonempty : token ≠ ""
  unasked : ∀ request ∈ session.rotation.requests, request.token ≠ token
  unheld : ∀ pair ∈ session.held, pair.refreshToken ≠ token
  unanswered : ∀ request reply, session.replies.lookup request = some reply →
    reply.refreshToken ≠ token

/-- Neither the session's token nor one on its way to it. -/
structure Unshared (session : TokenSession) (token : String) : Prop where
  unheld : ∀ pair ∈ session.held, pair.refreshToken ≠ token
  unanswered : ∀ request reply, session.replies.lookup request = some reply →
    reply.refreshToken ≠ token

/-- The session's token has not expired, nor one on its way to it. -/
def InTime (session : TokenSession) (now : Int) : Prop :=
  ∀ row ∈ session.rotation.store.refreshTokens,
    (∃ pair ∈ session.held, pair.refreshToken = row.token) ∨
      (∃ request reply, session.Current request ∧
        session.replies.lookup request = some reply ∧
        reply.refreshToken = row.token) → now ≤ row.expiresAt

/-- Tokens are drawn anew and nobody else uses the session's, which are
replaced before they expire; no answer that a task of the session still needs
is lost, and none reaches a later session. -/
def Careful (session : TokenSession) : SessionEvent → Prop
  | .server (.login row) => session.Fresh row.token
  | .server (.mint _ drawn) =>
      session.Fresh drawn.token ∧ session.InTime drawn.now
  | .server (.present token) => session.Unshared token
  | .server (.lookup _ now) => session.InTime now
  | .server _ => True
  | .finishSession row => row ∈ session.rotation.store.refreshTokens ∧
      session.clock ≤ row.expiresAt ∧
      ∀ request ∈ session.rotation.requests, request.token ≠ row.token
  | .refreshAccessToken => True
  | .receive request => ∀ token,
      session.rotation.requests[request]? = some ⟨token, .succeeded⟩ →
        session.fence ≤ request
  | .lose request => session.Current request → ∀ token phase,
      session.rotation.requests[request]? = some ⟨token, phase⟩ →
        phase = .refused
  | .wait now => session.InTime now

/-- The request has minted a token that only its answer tells. -/
structure Grants (session : TokenSession) (request : ℕ)
    (reply : RefreshTokenResponse) : Prop where
  answers : session.replies.lookup request = some reply
  account : reply.accessToken = session.account
  nonempty : reply.refreshToken ≠ ""
  live : session.Live reply.refreshToken
  unasked : ∀ other ∈ session.rotation.requests,
    other.token ≠ reply.refreshToken
  unheld : ∀ pair ∈ session.held, pair.refreshToken ≠ reply.refreshToken
  only : ∀ other found, session.replies.lookup other = some found →
    found.refreshToken = reply.refreshToken → other = request

/-- The session can be refreshed: with the token it holds, or with the one that
an answer on its way brings. -/
def Alive (session : TokenSession) : Prop :=
  ∀ pair ∈ session.held, pair.accessToken = session.account ∧
    (session.Redeems pair.refreshToken ∨ ∃ request reply,
      session.Current request ∧ session.rotation.requests[request]? =
        some ⟨pair.refreshToken, .succeeded⟩ ∧
      session.replies.lookup request = some reply ∧
      reply.accessToken = session.account ∧ reply.refreshToken ≠ "" ∧
      session.Redeems reply.refreshToken)

/-- What a request of the session must have. -/
structure Asked (session : TokenSession) (request : ℕ) (token : String)
    (phase : RefreshPhase) : Prop where
  own : session.Own token
  minting : ∀ row, phase = .minting row → row.claims = session.account
  granted : phase = .deleting ∨ phase = .succeeded →
    ∃ reply, session.Grants request reply

structure Kept (session : TokenSession) : Prop where
  sound : session.rotation.store.TokensSound
  fenced : session.fence ≤ session.rotation.requests.length
  sent : ∀ request ∈ session.waiting,
    request < session.rotation.requests.length
  own : ∀ pair ∈ session.held, session.Own pair.refreshToken ∧
    pair.accessToken = session.account
  asked : ∀ (request : ℕ) (token : String) (phase : RefreshPhase),
    session.Current request →
    session.rotation.requests[request]? = some ⟨token, phase⟩ →
    session.Asked request token phase
  alive : ∀ pair ∈ session.held, session.Live pair.refreshToken ∨
    ∃ request, session.Current request ∧ session.rotation.requests[request]? =
      some ⟨pair.refreshToken, .succeeded⟩
  busy : ∀ pair ∈ session.held, ∀ (index : ℕ) (request : RefreshRequest),
    session.rotation.requests[index]? = some request →
    request.token = pair.refreshToken → request.inFlight = true →
    session.Current index

private theorem Kept.redeems {session : TokenSession} (kept : session.Kept)
    {token : String} (live : session.Live token) : session.Redeems token := by
  rintro drawn now unused
  obtain ⟨row, listed, rfl, claims, current⟩ := live
  cases present : session.rotation.store.lookupRefreshToken row.token with
  | none =>
      exact absurd (beq_self_eq_true row.token)
        (List.find?_eq_none.mp present row listed)
  | some found =>
      obtain ⟨stored, named⟩ := Store.lookupRefreshToken_eq present
      obtain rfl := kept.sound.unique found stored row listed named
      have accepted : session.rotation.store.acceptsRefreshToken
          (AuthSvc.replacement drawn found) = true := by
        rw [Store.acceptsRefreshToken, Bool.and_eq_true, Bool.not_eq_true',
          List.any_eq_false]
        refine ⟨fun row listed same => unused row listed ?_,
          kept.sound.referenced found stored⟩
        exact beq_iff_eq.mp same
      rw [AuthSvc.refreshToken_accepted present
        (Int.not_lt.mpr (now ▸ current)) accepted]
      rw [← claims]
      rfl

private theorem Kept.isAlive {session : TokenSession} (kept : session.Kept) :
    session.Alive := by
  intro pair held
  refine ⟨(kept.own pair held).2, ?_⟩
  rcases kept.alive pair held with live | ⟨request, current, found⟩
  · exact .inl (kept.redeems live)
  · obtain ⟨reply, grants⟩ :=
      (kept.asked request _ _ current found).granted (.inr rfl)
    exact .inr ⟨request, reply, current, found, grants.answers,
      grants.account, grants.nonempty, kept.redeems grants.live⟩

private theorem kept_start {store : Store} (sound : store.TokensSound) :
    (start store).Kept where
  sound := sound
  fenced := Nat.le_refl 0
  sent := nofun
  own := nofun
  asked := nofun
  alive := nofun
  busy := nofun

section Requests

variable {session : TokenSession} {index : ℕ} {token : String}
  {old new : RefreshPhase}
  (found : session.rotation.requests[index]? = some ⟨token, old⟩)

def entered (session : TokenSession) (index : ℕ) (token : String)
    (phase : RefreshPhase) : TokenSession :=
  { session with rotation := session.rotation.enter index token phase }

include found

private theorem unasked_entered {target : String}
    (unasked : ∀ other ∈ session.rotation.requests, other.token ≠ target) :
    ∀ other ∈ (session.entered index token new).rotation.requests,
      other.token ≠ target := by
  intro other listed
  obtain ⟨place, stored⟩ := List.mem_iff_getElem?.mp listed
  rcases Rotation.request_cases found stored with ⟨_, rfl⟩ | ⟨_, kept⟩
  · exact unasked ⟨token, old⟩ (List.mem_of_getElem? found)
  · exact unasked other (List.mem_of_getElem? kept)

theorem Grants.entered {request : ℕ} {reply : RefreshTokenResponse}
    (grants : session.Grants request reply) :
    (session.entered index token new).Grants request reply :=
  { grants with unasked := unasked_entered found grants.unasked }

theorem Kept.entered (kept : session.Kept) (running : old ≠ .succeeded)
    (stays : RefreshRequest.inFlight ⟨token, new⟩ = true →
      RefreshRequest.inFlight ⟨token, old⟩ = true)
    (asked : session.Current index → session.Asked index token new) :
    (session.entered index token new).Kept where
  sound := kept.sound
  fenced := by
    have fenced := kept.fenced
    simpa [TokenSession.entered, Rotation.enter] using fenced
  sent := by
    intro request waits
    have sent := kept.sent request waits
    simpa [TokenSession.entered, Rotation.enter] using sent
  own := kept.own
  asked := by
    intro request target phase current stored
    rcases Rotation.request_cases found stored with ⟨rfl, same⟩ | ⟨_, before⟩
    · cases same
      obtain ⟨own, minting, granted⟩ := asked current
      refine ⟨own, minting, fun either => ?_⟩
      obtain ⟨reply, grants⟩ := granted either
      exact ⟨reply, grants.entered found⟩
    · obtain ⟨own, minting, granted⟩ :=
        kept.asked request target phase current before
      refine ⟨own, minting, fun either => ?_⟩
      obtain ⟨reply, grants⟩ := granted either
      exact ⟨reply, grants.entered found⟩
  alive := by
    intro pair held
    rcases kept.alive pair held with live | ⟨request, current, succeeded⟩
    · exact .inl live
    · refine .inr ⟨request, current, ?_⟩
      have other : request ≠ index := by
        rintro rfl
        rw [found] at succeeded
        cases succeeded
        exact running rfl
      exact (Rotation.getElem?_enter found request).trans
        ((if_neg other).trans succeeded)
  busy := by
    intro pair held other request stored named flying
    rcases Rotation.request_cases found stored with ⟨rfl, rfl⟩ | ⟨_, before⟩
    · exact kept.busy pair held other _ found named (stays flying)
    · exact kept.busy pair held other request before named flying

end Requests

def replied (session : TokenSession) (index : ℕ)
    (reply : RefreshTokenResponse) : TokenSession :=
  { session with replies := session.replies.insert index reply }

section Server

variable {session : TokenSession} (kept : session.Kept)

include kept

theorem Kept.issued {row : RefreshRow} {rotation : Rotation}
    (same : rotation.requests = session.rotation.requests)
    (store : rotation.store = { session.rotation.store with
      refreshTokens := session.rotation.store.refreshTokens ++ [row] })
    (accepted : session.rotation.store.acceptsRefreshToken row = true)
    (fresh : session.Fresh row.token) :
    ({ session with rotation := rotation } : TokenSession).Kept := by
  have added : rotation.store.refreshTokens =
      session.rotation.store.refreshTokens ++ [row] := by rw [store]
  have cases_row : ∀ found ∈ rotation.store.refreshTokens,
      found ∈ session.rotation.store.refreshTokens ∨ found = row := by
    intro found listed
    rw [added] at listed
    simpa using listed
  have own_issued : ∀ {target}, target ≠ row.token → session.Own target →
      ({ session with rotation := rotation } : TokenSession).Own target := by
    intro target other own found listed named
    rcases cases_row found listed with before | rfl
    · exact own found before named
    · exact absurd named.symm other
  have live_issued : ∀ {target}, session.Live target →
      ({ session with rotation := rotation } : TokenSession).Live target := by
    rintro target ⟨found, listed, named⟩
    refine ⟨found, ?_, named⟩
    change found ∈ rotation.store.refreshTokens
    rw [added]
    exact List.mem_append_left _ listed
  have unasked : ∀ {index : ℕ} {request : RefreshRequest},
      session.rotation.requests[index]? = some request →
      request.token ≠ row.token := fun stored =>
    fresh.unasked _ (List.mem_of_getElem? stored)
  have grants_issued : ∀ {request reply}, session.Grants request reply →
      ({ session with rotation := rotation } : TokenSession).Grants request
        reply := fun grants =>
    { grants with
      live := live_issued grants.live
      unasked := by rw [same]; exact grants.unasked }
  constructor
  · change rotation.store.TokensSound
    rw [store]
    exact kept.sound.storeRefreshToken accepted
  · rw [same]
    exact kept.fenced
  · rw [same]
    exact kept.sent
  · intro pair held
    exact ⟨own_issued (fresh.unheld pair held) (kept.own pair held).1,
      (kept.own pair held).2⟩
  · rw [same]
    intro request token phase current stored
    obtain ⟨own, minting, granted⟩ :=
      kept.asked request token phase current stored
    refine ⟨own_issued (unasked stored) own, minting, fun either => ?_⟩
    obtain ⟨reply, grants⟩ := granted either
    exact ⟨reply, grants_issued grants⟩
  · rw [same]
    intro pair held
    exact (kept.alive pair held).imp live_issued id
  · rw [same]
    exact kept.busy

private theorem Kept.replied {index : ℕ} {token : String} {row : RefreshRow}
    (found : session.rotation.requests[index]? = some ⟨token, .minting row⟩)
    {reply : RefreshTokenResponse} (fresh : session.Fresh reply.refreshToken) :
    (session.replied index reply).Kept := by
  refine { kept with asked := ?_ }
  intro request target phase current stored
  obtain ⟨own, minting, granted⟩ :=
    kept.asked request target phase current stored
  refine ⟨own, minting, fun either => ?_⟩
  obtain ⟨answer, grants⟩ := granted either
  have other : request ≠ index := by
    rintro rfl
    change session.rotation.requests[request]? = _ at stored
    rw [found] at stored
    cases stored
    rcases either with impossible | impossible <;> cases impossible
  refine ⟨answer, { grants with answers := ?_, only := ?_ }⟩
  · exact (Mapping.lookup_insert_eq _ _ _ _).trans
      ((if_neg other).trans grants.answers)
  · intro place response taken named
    rcases Mapping.insert_cases taken with ⟨rfl, rfl⟩ | ⟨_, before⟩
    · exact absurd named.symm
        (fresh.unanswered request answer grants.answers)
    · exact grants.only place response before named

theorem Kept.login (row : RefreshRow) (fresh : session.Fresh row.token) :
    (session.server (.login row)).Kept := by
  simp only [server, TokenSession.wait, time, TokenSession.answered,
    Rotation.step, Rotation.login]
  cases accepted : session.rotation.store.acceptsRefreshToken row with
  | false =>
      obtain ⟨error, refused⟩ := Store.storeRefreshToken_refused accepted
      rw [refused]
      exact kept
  | true =>
      rw [Store.storeRefreshToken_accepted accepted]
      exact kept.issued rfl rfl accepted fresh

theorem Kept.present (token : String) (unshared : session.Unshared token) :
    (session.server (.present token)).Kept := by
  have old : ∀ {index : ℕ} {request : RefreshRequest},
      (session.rotation.present token).requests[index]? = some request →
      session.rotation.requests[index]? = some request ∨
        (index = session.rotation.requests.length ∧
          request = ⟨token, .looking⟩) := Slots.append_cases
  refine ⟨kept.sound, ?_, ?_, kept.own, ?_, ?_, ?_⟩
  · have fenced := kept.fenced
    simp only [server, TokenSession.wait, Rotation.step, Rotation.present,
      List.length_append]
    omega
  · intro request waits
    have sent := kept.sent request waits
    simp only [server, Rotation.step, Rotation.present, List.length_append]
    omega
  · intro request target phase current stored
    rcases old stored with before | ⟨rfl, _⟩
    · obtain ⟨own, minting, granted⟩ :=
        kept.asked request target phase current before
      refine ⟨own, minting, fun either => ?_⟩
      obtain ⟨reply, grants⟩ := granted either
      refine ⟨reply, { grants with unasked := ?_ }⟩
      intro other listed
      rcases List.mem_append.mp listed with earlier | added
      · exact grants.unasked other earlier
      · rw [List.mem_singleton.mp added]
        exact (unshared.unanswered request reply grants.answers).symm
    · exact absurd (kept.sent _ current.1) (Nat.lt_irrefl _)
  · intro pair held
    rcases kept.alive pair held with live | ⟨request, current, succeeded⟩
    · exact .inl live
    · exact .inr ⟨request, current,
        Slots.getElem?_append_of_found succeeded _⟩
  · intro pair held index request stored named flying
    rcases old stored with before | ⟨_, rfl⟩
    · exact kept.busy pair held index request before named flying
    · exact absurd named.symm (unshared.unheld pair held)

theorem Kept.wait {now : Int} (inTime : session.InTime now) :
    (session.wait now).Kept := by
  have live_wait : ∀ {target}, (∃ pair ∈ session.held,
        pair.refreshToken = target) ∨ (∃ request reply,
        session.Current request ∧
        session.replies.lookup request = some reply ∧
        reply.refreshToken = target) →
      session.Live target → (session.wait now).Live target := by
    rintro target owned ⟨row, listed, rfl, claims, _⟩
    exact ⟨row, listed, rfl, claims, inTime row listed owned⟩
  refine { kept with asked := ?_, alive := ?_ }
  · intro request token phase current stored
    obtain ⟨own, minting, granted⟩ :=
      kept.asked request token phase current stored
    refine ⟨own, minting, fun either => ?_⟩
    obtain ⟨reply, grants⟩ := granted either
    exact ⟨reply, { grants with
      live := live_wait (.inr ⟨request, reply, current, grants.answers, rfl⟩)
        grants.live }⟩
  · intro pair held
    exact (kept.alive pair held).imp
      (live_wait (.inl ⟨pair, held, rfl⟩)) id

theorem Kept.lookup (index : ℕ) (now : Int) :
    ({ session with rotation := session.rotation.lookup index now } :
      TokenSession).Kept := by
  simp only [Rotation.lookup]
  split
  · rename_i token found
    have refused : (session.entered index token .refused).Kept :=
      kept.entered found nofun (fun _ => rfl) fun current =>
        ⟨(kept.asked index token _ current found).own, nofun, by simp⟩
    split
    · rename_i row present
      split
      · exact refused
      · refine kept.entered found nofun (fun _ => rfl) fun current => ?_
        have own := (kept.asked index token _ current found).own
        obtain ⟨live, named⟩ := Store.lookupRefreshToken_eq present
        refine ⟨own, ?_, by simp⟩
        intro other same
        cases same
        exact own row live named
    · exact refused
  · exact kept

theorem Kept.abort (index : ℕ) : (session.server (.abort index)).Kept := by
  simp only [server, TokenSession.wait, time, TokenSession.answered,
    Rotation.step, Rotation.abort]
  split
  · rename_i request found
    split
    · rename_i flying
      refine kept.entered found ?_ (fun _ => flying) fun current =>
        ⟨(kept.asked index _ _ current found).own, nofun, by simp⟩
      intro ended
      rw [RefreshRequest.inFlight, ended] at flying
      cases flying
    · exact kept
  · exact kept

private theorem Kept.minted {index : ℕ} {token : String} {row : RefreshRow}
    (found : session.rotation.requests[index]? = some ⟨token, .minting row⟩)
    {drawn : AuthSvc.Mint} {chains : Mapping String ℕ}
    (accepted : session.rotation.store.acceptsRefreshToken
      (AuthSvc.replacement drawn row) = true)
    (fresh : session.Fresh drawn.token) (time : session.clock = drawn.now) :
    (({ session with rotation := { session.rotation with
        store := { session.rotation.store with
          refreshTokens := session.rotation.store.refreshTokens ++
            [AuthSvc.replacement drawn row] }
        chains := chains } } : TokenSession).replied index
      ⟨row.claims, drawn.token⟩ |>.entered index token .deleting).Kept := by
  have issued : ({ session with rotation := { session.rotation with
      store := { session.rotation.store with
        refreshTokens := session.rotation.store.refreshTokens ++
          [AuthSvc.replacement drawn row] }
      chains := chains } } : TokenSession).Kept :=
    kept.issued rfl rfl accepted fresh
  have replied := issued.replied found
    (show TokenSession.Fresh _ (RefreshTokenResponse.mk row.claims
      drawn.token).refreshToken from
      ⟨fresh.nonempty, fresh.unasked, fresh.unheld, fresh.unanswered⟩)
  refine replied.entered found nofun (fun _ => rfl) fun current => ?_
  refine ⟨(replied.asked index token _ current found).own, nofun, fun _ => ?_⟩
  have claims : row.claims = session.account :=
    (kept.asked index token _ current found).minting row rfl
  refine ⟨⟨row.claims, drawn.token⟩, ?_, claims, fresh.nonempty, ?_,
    fresh.unasked, fresh.unheld, ?_⟩
  · exact (Mapping.lookup_insert_eq _ _ _ _).trans (if_pos rfl)
  · refine ⟨AuthSvc.replacement drawn row,
      List.mem_append_right _ List.mem_cons_self, rfl, claims, ?_⟩
    change session.clock ≤ drawn.now + AuthSvc.refreshTokenTtl
    simp only [time, AuthSvc.refreshTokenTtl]
    omega
  · intro other reply taken named
    rcases Mapping.insert_cases taken with ⟨same, _⟩ | ⟨_, before⟩
    · exact same
    · exact absurd named (fresh.unanswered other reply before)

/-- The token that a request has redeemed is gone; where it was the one the
session holds, the request's answer brings the next one. -/
theorem Kept.deleted {index : ℕ} {token : String}
    (found : session.rotation.requests[index]? = some ⟨token, .deleting⟩) :
    ({ session with rotation :=
        { session.rotation.enter index token .succeeded with
          store := session.rotation.store.deleteRefreshToken token } } :
      TokenSession).Kept := by
  have mem_iff : ∀ row,
      row ∈ (session.rotation.store.deleteRefreshToken token).refreshTokens ↔
        row ∈ session.rotation.store.refreshTokens ∧ row.token ≠ token := by
    intro row
    simp [Store.deleteRefreshToken]
  have live_deleted : ∀ {target}, target ≠ token → session.Live target →
      ({ session with rotation :=
          { session.rotation.enter index token .succeeded with
            store := session.rotation.store.deleteRefreshToken token } } :
        TokenSession).Live target := by
    rintro target other ⟨row, listed, rfl, claims⟩
    exact ⟨row, (mem_iff row).mpr ⟨listed, other⟩, rfl, claims⟩
  have grants_deleted : ∀ {request reply}, session.Grants request reply →
      ({ session with rotation :=
          { session.rotation.enter index token .succeeded with
            store := session.rotation.store.deleteRefreshToken token } } :
        TokenSession).Grants request reply := fun grants =>
    { grants with
      live := live_deleted
        (grants.unasked _ (List.mem_of_getElem? found)).symm grants.live
      unasked := unasked_entered found grants.unasked }
  constructor
  · exact kept.sound.deleteRefreshToken token
  · have fenced := kept.fenced
    simpa [Rotation.enter] using fenced
  · intro request waits
    have sent := kept.sent request waits
    simpa [Rotation.enter] using sent
  · intro pair held
    obtain ⟨own, access⟩ := kept.own pair held
    exact ⟨fun row listed => own row ((mem_iff row).mp listed).1, access⟩
  · intro request target phase current stored
    rcases Rotation.request_cases found stored with ⟨rfl, same⟩ | ⟨_, before⟩
    · cases same
      obtain ⟨own, _, granted⟩ := kept.asked request token _ current found
      obtain ⟨reply, grants⟩ := granted (.inl rfl)
      exact ⟨fun row listed => own row ((mem_iff row).mp listed).1, by simp,
        fun _ => ⟨reply, grants_deleted grants⟩⟩
    · obtain ⟨own, minting, granted⟩ :=
        kept.asked request target phase current before
      refine ⟨fun row listed => own row ((mem_iff row).mp listed).1, minting,
        fun either => ?_⟩
      obtain ⟨reply, grants⟩ := granted either
      exact ⟨reply, grants_deleted grants⟩
  · intro pair held
    rcases kept.alive pair held with live | ⟨request, current, succeeded⟩
    · by_cases named : pair.refreshToken = token
      · refine .inr ⟨index, kept.busy pair held index _ found named.symm rfl,
          ?_⟩
        rw [named]
        exact (Rotation.getElem?_enter found index).trans (if_pos rfl)
      · exact .inl (live_deleted named live)
    · refine .inr ⟨request, current, ?_⟩
      have other : request ≠ index := by
        rintro rfl
        rw [found] at succeeded
        cases succeeded
      exact (Rotation.getElem?_enter found request).trans
        ((if_neg other).trans succeeded)
  · intro pair held other request stored named flying
    rcases Rotation.request_cases found stored with ⟨_, rfl⟩ | ⟨_, before⟩
    · cases flying
    · exact kept.busy pair held other request before named flying

theorem Kept.mint (index : ℕ) (drawn : AuthSvc.Mint)
    (fresh : session.Fresh drawn.token) (time : session.clock = drawn.now) :
    ({ session with
        rotation := session.rotation.mint index drawn
        replies := session.answered (.mint index drawn) } :
      TokenSession).Kept := by
  simp only [TokenSession.answered, Rotation.mint]
  cases stored : session.rotation.requests[index]? with
  | none => exact kept
  | some request =>
      obtain ⟨token, phase⟩ := request
      cases phase with
      | minting row =>
          have found : (session.replied index
              ⟨row.claims, drawn.token⟩).rotation.requests[index]? =
                some ⟨token, .minting row⟩ := stored
          have replied : (session.replied index
            ⟨row.claims, drawn.token⟩).Kept := kept.replied stored fresh
          cases accepted : session.rotation.store.acceptsRefreshToken
              (AuthSvc.replacement drawn row) with
          | false =>
              obtain ⟨error, refused⟩ :=
                Store.storeRefreshToken_refused accepted
              simp only [refused]
              exact replied.entered found (by simp) (fun _ => rfl)
                fun current => ⟨(replied.asked index token _ current found).own,
                  by simp, by simp⟩
          | true =>
              simp only [Store.storeRefreshToken_accepted accepted]
              exact kept.minted stored accepted fresh time
      | _ => exact kept

theorem Kept.delete (index : ℕ) : (session.server (.delete index)).Kept := by
  simp only [server, TokenSession.wait, time, TokenSession.answered,
    Rotation.step, Rotation.delete]
  split
  · rename_i token found
    exact kept.deleted found
  · exact kept

end Server

section Tasks

variable {session : TokenSession} (kept : session.Kept)

include kept

theorem Kept.finishSession {row : RefreshRow}
    (listed : row ∈ session.rotation.store.refreshTokens)
    (current : session.clock ≤ row.expiresAt)
    (unasked : ∀ request ∈ session.rotation.requests,
      request.token ≠ row.token) : (session.finishSession row).Kept where
  sound := kept.sound
  fenced := Nat.le_refl _
  sent := kept.sent
  own := by
    rintro pair ⟨⟩
    refine ⟨fun other found named => ?_, rfl⟩
    rw [kept.sound.unique other found row listed named]
    rfl
  asked := by
    intro request token phase current
    exact absurd (kept.sent request current.1) (Nat.not_lt.mpr current.2)
  alive := by
    rintro pair ⟨⟩
    exact .inl ⟨row, listed, rfl, rfl, current⟩
  busy := by
    rintro pair ⟨⟩ index request stored named
    exact absurd named (unasked request (List.mem_of_getElem? stored))

theorem Kept.refreshAccessToken : session.refreshAccessToken.Kept := by
  unfold TokenSession.refreshAccessToken
  split
  · rename_i pair held
    have old : ∀ {index : ℕ} {request : RefreshRequest},
        (session.rotation.present pair.refreshToken).requests[index]? =
          some request → session.rotation.requests[index]? = some request ∨
          (index = session.rotation.requests.length ∧
            request = ⟨pair.refreshToken, .looking⟩) := Slots.append_cases
    constructor
    · exact kept.sound
    · have fenced := kept.fenced
      simp only [Rotation.present, List.length_append]
      omega
    · intro request waits
      simp only [Rotation.present, List.length_append, List.length_singleton]
      rcases List.mem_append.mp waits with before | added
      · have sent := kept.sent request before
        omega
      · rw [List.mem_singleton.mp added]
        omega
    · exact kept.own
    · intro request target phase current stored
      rcases old stored with before | ⟨_, same⟩
      · have waits : request ∈ session.waiting := by
          rcases List.mem_append.mp current.1 with waits | added
          · exact waits
          · rw [List.mem_singleton.mp added, List.getElem?_eq_none
              (Nat.le_refl _)] at before
            cases before
        obtain ⟨own, minting, granted⟩ :=
          kept.asked request target phase ⟨waits, current.2⟩ before
        refine ⟨own, minting, fun either => ?_⟩
        obtain ⟨reply, grants⟩ := granted either
        refine ⟨reply, { grants with unasked := ?_ }⟩
        intro other listed
        rcases List.mem_append.mp listed with earlier | added
        · exact grants.unasked other earlier
        · rw [List.mem_singleton.mp added]
          exact grants.unheld pair held
      · cases same
        exact ⟨(kept.own pair held).1, nofun, by simp⟩
    · intro other also
      rcases kept.alive other also with live | ⟨request, current, succeeded⟩
      · exact .inl live
      · exact .inr ⟨request,
          ⟨List.mem_append_left _ current.1, current.2⟩,
          Slots.getElem?_append_of_found succeeded _⟩
    · intro other also index request stored named flying
      rcases old stored with before | ⟨rfl, _⟩
      · have current := kept.busy other also index request before named flying
        exact ⟨List.mem_append_left _ current.1, current.2⟩
      · exact ⟨List.mem_append_right _ List.mem_cons_self, kept.fenced⟩
  · exact kept

/-- An answer that grants nothing, or that no task of the session needs, may
be missed. -/
theorem Kept.settle {request : ℕ}
    (idle : session.Current request → ∀ token phase,
      session.rotation.requests[request]? = some ⟨token, phase⟩ →
        phase = .refused) : (session.settle request).Kept := by
  have before : ∀ {other}, (session.settle request).Current other →
      session.Current other := fun current =>
    ⟨(List.mem_filter.mp current.1).1, current.2⟩
  have after : ∀ {other}, session.Current other → other ≠ request →
      (session.settle request).Current other := fun current different =>
    ⟨List.mem_filter.mpr ⟨current.1, by simpa using different⟩, current.2⟩
  constructor
  · exact kept.sound
  · exact kept.fenced
  · exact fun other waits => kept.sent other (List.mem_filter.mp waits).1
  · exact kept.own
  · intro other token phase current stored
    obtain ⟨own, minting, granted⟩ :=
      kept.asked other token phase (before current) stored
    refine ⟨own, minting, fun either => ?_⟩
    obtain ⟨reply, grants⟩ := granted either
    exact ⟨reply, { grants with }⟩
  · intro pair held
    rcases kept.alive pair held with live | ⟨other, current, succeeded⟩
    · exact .inl live
    · refine .inr ⟨other, after current ?_, succeeded⟩
      rintro rfl
      cases idle current _ _ succeeded
  · intro pair held index other stored named flying
    have current := kept.busy pair held index other stored named flying
    refine after current ?_
    rintro rfl
    have refused := idle current other.token other.phase stored
    rw [RefreshRequest.inFlight, refused] at flying
    cases flying

theorem Kept.accept {request : ℕ}
    {reply : RefreshTokenResponse} (grants : session.Grants request reply) :
    ({ session.settle request with held := some (session.keep reply) } :
      TokenSession).Kept := by
  have replaced : session.keep reply = reply := by
    simp only [keep, beq_iff_eq, grants.nonempty, if_false]
    split <;> rfl
  rw [replaced]
  constructor
  · exact kept.sound
  · exact kept.fenced
  · exact fun other waits => kept.sent other (List.mem_filter.mp waits).1
  · rintro pair ⟨⟩
    obtain ⟨row, listed, named, claims, _⟩ := grants.live
    refine ⟨fun other found same => ?_, grants.account⟩
    rw [kept.sound.unique other found row listed (same.trans named.symm)]
    exact claims
  · intro other token phase waits stored
    obtain ⟨waiting, different⟩ := List.mem_filter.mp waits.1
    obtain ⟨own, minting, granted⟩ :=
      kept.asked other token phase ⟨waiting, waits.2⟩ stored
    refine ⟨own, minting, fun either => ?_⟩
    obtain ⟨answer, also⟩ := granted either
    refine ⟨answer, { also with unheld := ?_ }⟩
    rintro pair ⟨⟩ same
    have mixed := also.only request reply grants.answers same
    simp [mixed] at different
  · rintro pair ⟨⟩
    exact .inl grants.live
  · rintro pair ⟨⟩ index other stored named
    exact absurd named (grants.unasked other (List.mem_of_getElem? stored))

theorem Kept.receive {request : ℕ}
    (timely : ∀ token,
      session.rotation.requests[request]? = some ⟨token, .succeeded⟩ →
        session.fence ≤ request) : (session.receive request).Kept := by
  unfold TokenSession.receive
  split
  · rename_i waits
    split
    · rename_i token found
      obtain ⟨reply, grants⟩ := (kept.asked request token _
        ⟨waits, timely token found⟩ found).granted (.inr rfl)
      rw [grants.answers]
      exact kept.accept grants
    · rename_i token found
      apply kept.settle
      intro _ other phase stored
      rw [found] at stored
      cases stored
      rfl
    · exact kept
  · exact kept

end Tasks

theorem Kept.step (session : TokenSession) (event : SessionEvent)
    (kept : session.Kept) (careful : session.Careful event) :
    (session.step event).Kept := by
  cases event with
  | server event =>
      cases event with
      | login row => exact kept.login row careful
      | present token => exact kept.present token careful
      | lookup index now => exact (kept.wait careful).lookup index now
      | mint index drawn =>
          obtain ⟨⟨nonempty, unasked, unheld, unanswered⟩, inTime⟩ := careful
          exact (kept.wait inTime).mint index drawn
            ⟨nonempty, unasked, unheld, unanswered⟩ rfl
      | delete index => exact kept.delete index
      | abort index => exact kept.abort index
  | finishSession row =>
      exact kept.finishSession careful.1 careful.2.1 careful.2.2
  | refreshAccessToken => exact kept.refreshAccessToken
  | receive request => exact kept.receive careful
  | lose request => exact kept.settle careful
  | wait now => exact kept.wait careful

/-- Whatever refreshes overlap, a session that loses no answer and replaces
its tokens in time stays one of the account that signed in, and can always be
refreshed. -/
theorem refreshes_keep_session (store : Store) (events : List SessionEvent)
    (sound : store.TokensSound)
    (careful : EventRun.Each step Careful (start store) events) :
    EventRun.Always step Alive (start store) events :=
  (EventRun.always_of_step Kept.step (kept_start sound) careful).imp
    fun _ kept => kept.isAlive

private theorem inTime_of_unexpired {session : TokenSession} {now : Int}
    (unexpired : ∀ row ∈ session.rotation.store.refreshTokens,
      now ≤ row.expiresAt) : session.InTime now :=
  fun row listed _ => unexpired row listed

/-- A sign-in, and two refreshes that redeem the same token, which has expired
when the session rests. -/
def overlapping : List SessionEvent := [
  .server (.login ⟨"first", 2, 20, 1000⟩),
  .finishSession ⟨"first", 2, 20, 1000⟩,
  .refreshAccessToken, .refreshAccessToken,
  .server (.lookup 0 100), .server (.lookup 1 100),
  .server (.mint 0 ⟨100, 0, "second"⟩), .server (.delete 0),
  .server (.mint 1 ⟨100, 0, "third"⟩), .server (.delete 1),
  .receive 1, .receive 0, .wait 2000]

theorem overlapping_alive :
    EventRun.Always step Alive (start Rotation.memberStore) overlapping ∧
      ((EventRun.run step (start Rotation.memberStore) overlapping).held.map
        (·.refreshToken)) = some "second" := by
  refine ⟨refreshes_keep_session Rotation.memberStore overlapping
    ⟨nofun, nofun⟩ ?_, by decide⟩
  refine ⟨⟨by decide, nofun, nofun, nofun⟩, ⟨by decide, by decide, nofun⟩,
    trivial, trivial, inTime_of_unexpired (by decide),
    inTime_of_unexpired (by decide),
    ⟨⟨by decide, by decide, by decide, nofun⟩,
      inTime_of_unexpired (by decide)⟩, trivial,
    ⟨⟨by decide, by decide, by decide, ?_⟩,
      inTime_of_unexpired (by decide)⟩, trivial, ?_, ?_,
    inTime_of_unexpired (by decide), trivial⟩
  · intro request reply taken
    rcases Mapping.insert_cases taken with ⟨_, rfl⟩ | ⟨_, before⟩
    · decide
    · cases before
  · intro _ _
    exact Nat.zero_le 1
  · intro _ _
    exact Nat.le_refl 0

/-- Signing in again does not wait for the tasks of the session before: their
answer puts the old account's tokens into the new session. -/
example :
    ((EventRun.run step (start { Rotation.memberStore with
        users := ⟨3, "other", "Other", "", false, false, none, ""⟩ ::
          Rotation.memberStore.users
        devices := ⟨30, 3, "phone", none⟩ :: Rotation.memberStore.devices })
      [.server (.login ⟨"first", 2, 20, 1000⟩),
        .finishSession ⟨"first", 2, 20, 1000⟩, .refreshAccessToken,
        .server (.lookup 0 100), .server (.mint 0 ⟨100, 0, "second"⟩),
        .server (.delete 0), .server (.login ⟨"third", 3, 30, 1000⟩),
        .finishSession ⟨"third", 3, 30, 1000⟩, .receive 0]).held.map
          (·.accessToken)) = some ⟨2, 20⟩ := by
  decide

end TokenSession

end Accord
