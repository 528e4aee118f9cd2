import Accord.Client.TokenRefresh

/-! What it costs a session when the answers to its refreshes are lost. -/

namespace Accord

open AuthSvc (RefreshTokenResponse)

def RotationEvent.draws : RotationEvent → Option String
  | .login row => some row.token
  | .mint _ drawn => some drawn.token
  | _ => none

namespace Rotation

/-- What one event may do to a request for the token. -/
inductive Moves (rotation : Rotation) (token : String) :
    RefreshPhase → RefreshPhase → Prop
  | stays (phase : RefreshPhase) : Moves rotation token phase phase
  | finds {row : RefreshRow} (listed : row ∈ rotation.store.refreshTokens)
      (named : row.token = token) : Moves rotation token .looking (.minting row)
  | mints (row : RefreshRow) : Moves rotation token (.minting row) .deleting
  | deletes : Moves rotation token .deleting .succeeded
  | fails {phase : RefreshPhase} (running : phase ≠ .succeeded) :
      Moves rotation token phase .refused

/-- A token that a request has redeemed is not stored. -/
def Spent (rotation : Rotation) : Prop :=
  ∀ (place : ℕ) (token : String),
    rotation.requests[place]? = some ⟨token, .succeeded⟩ →
    ∀ row ∈ rotation.store.refreshTokens, row.token ≠ token

section Step

variable {rotation : Rotation}

private theorem Moves.enter {index : ℕ} {token : String}
    {old new : RefreshPhase}
    (found : rotation.requests[index]? = some ⟨token, old⟩)
    (moves : rotation.Moves token old new) {place : ℕ} {target : String}
    {phase : RefreshPhase}
    (stored : rotation.requests[place]? = some ⟨target, phase⟩) :
    ∃ next, (rotation.enter index token new).requests[place]? =
      some ⟨target, next⟩ ∧ rotation.Moves target phase next := by
  rw [getElem?_enter found]
  by_cases here : place = index
  · subst here
    rw [found] at stored
    cases stored
    exact ⟨new, if_pos rfl, moves⟩
  · exact ⟨phase, (if_neg here).trans stored, .stays phase⟩

private theorem step_moves (event : RotationEvent) {place : ℕ} {target : String}
    {phase : RefreshPhase}
    (stored : rotation.requests[place]? = some ⟨target, phase⟩) :
    ∃ next, (rotation.step event).requests[place]? = some ⟨target, next⟩ ∧
      rotation.Moves target phase next := by
  have unmoved : ∃ next, rotation.requests[place]? = some ⟨target, next⟩ ∧
      rotation.Moves target phase next := ⟨phase, stored, .stays phase⟩
  cases event with
  | login row =>
      simp only [step, login]
      split <;> exact unmoved
  | present token =>
      exact ⟨phase, Slots.getElem?_append_of_found stored _, .stays phase⟩
  | lookup index now =>
      simp only [step, lookup]
      split
      · rename_i token found
        have refused := Moves.enter found (.fails (by simp)) stored
        split
        · rename_i row present
          obtain ⟨listed, named⟩ := Store.lookupRefreshToken_eq present
          split
          · exact refused
          · exact Moves.enter found (.finds listed named) stored
        · exact refused
      · exact unmoved
  | mint index drawn =>
      simp only [step, mint]
      split
      · rename_i token row found
        split
        · exact Moves.enter found (.mints row) stored
        · exact Moves.enter found (.fails (by simp)) stored
      · exact unmoved
  | delete index =>
      simp only [step, delete]
      split
      · rename_i token found
        exact Moves.enter found .deletes stored
      · exact unmoved
  | abort index =>
      simp only [step, abort]
      split
      · rename_i request found
        split
        · rename_i flying
          refine Moves.enter found (.fails ?_) stored
          intro ended
          rw [RefreshRequest.inFlight, ended] at flying
          cases flying
        · exact unmoved
      · exact unmoved

private theorem step_rows (event : RotationEvent) {row : RefreshRow}
    (listed : row ∈ (rotation.step event).store.refreshTokens) :
    row ∈ rotation.store.refreshTokens ∨ event.draws = some row.token := by
  cases event with
  | login added =>
      simp only [step, login] at listed
      cases accepted : rotation.store.acceptsRefreshToken added with
      | false =>
          obtain ⟨error, refused⟩ := Store.storeRefreshToken_refused accepted
          rw [refused] at listed
          exact .inl listed
      | true =>
          rw [Store.storeRefreshToken_accepted accepted] at listed
          refine (List.mem_append.mp listed).imp id fun new => ?_
          rw [List.mem_singleton.mp new]
          rfl
  | present token => exact .inl listed
  | lookup index now =>
      simp only [step, lookup] at listed
      repeat' split at listed
      all_goals exact .inl listed
  | mint index drawn =>
      simp only [step, mint] at listed
      split at listed
      · rename_i token found _
        cases accepted : rotation.store.acceptsRefreshToken
            (AuthSvc.replacement drawn found) with
        | false =>
            obtain ⟨error, refused⟩ :=
              Store.storeRefreshToken_refused accepted
            rw [refused] at listed
            exact .inl listed
        | true =>
            rw [Store.storeRefreshToken_accepted accepted] at listed
            refine (List.mem_append.mp listed).imp id fun new => ?_
            rw [List.mem_singleton.mp new]
            rfl
      · exact .inl listed
  | delete index =>
      simp only [step, delete] at listed
      split at listed
      · exact .inl (List.mem_of_mem_filter listed)
      · exact .inl listed
  | abort index =>
      simp only [step, abort] at listed
      repeat' split at listed
      all_goals exact .inl listed

private theorem succeeded_before {index : ℕ} {token : String}
    {old new : RefreshPhase}
    (found : rotation.requests[index]? = some ⟨token, old⟩)
    (unfinished : new ≠ .succeeded) {place : ℕ} {target : String}
    (succeeded : (rotation.enter index token new).requests[place]? =
      some ⟨target, .succeeded⟩) :
    rotation.requests[place]? = some ⟨target, .succeeded⟩ := by
  rcases request_cases found succeeded with ⟨_, same⟩ | ⟨_, before⟩
  · cases same
    exact absurd rfl unfinished
  · exact before

/-- A token that has been redeemed by now had been redeemed before, or the event
deletes it. -/
private theorem step_succeeded (event : RotationEvent) {place : ℕ}
    {token : String}
    (succeeded : (rotation.step event).requests[place]? =
      some ⟨token, .succeeded⟩) :
    rotation.requests[place]? = some ⟨token, .succeeded⟩ ∨
      ∀ row ∈ (rotation.step event).store.refreshTokens,
        row.token ≠ token := by
  cases event with
  | login row =>
      simp only [step, login] at succeeded
      split at succeeded <;> exact .inl succeeded
  | present target =>
      rcases Slots.append_cases succeeded with before | ⟨_, same⟩
      · exact .inl before
      · cases same
  | lookup index now =>
      simp only [step, lookup] at succeeded
      split at succeeded
      · rename_i target found
        repeat' split at succeeded
        all_goals exact .inl (succeeded_before found (by simp) succeeded)
      · exact .inl succeeded
  | mint index drawn =>
      simp only [step, mint] at succeeded
      split at succeeded
      · rename_i target row found
        split at succeeded
        all_goals exact .inl (succeeded_before found (by simp) succeeded)
      · exact .inl succeeded
  | delete index =>
      simp only [step, delete] at succeeded ⊢
      split at succeeded
      · rename_i target found
        rcases request_cases found succeeded with ⟨_, same⟩ | ⟨_, before⟩
        · cases same
          refine .inr fun row listed named => ?_
          simp [Store.deleteRefreshToken, named] at listed
        · exact .inl before
      · exact .inl succeeded
  | abort index =>
      simp only [step, abort] at succeeded
      split at succeeded
      · rename_i request found
        split at succeeded
        · exact .inl (succeeded_before found (by simp) succeeded)
        · exact .inl succeeded
      · exact .inl succeeded

theorem Spent.step (spent : rotation.Spent) (event : RotationEvent)
    (new : ∀ request ∈ rotation.requests,
      event.draws ≠ some request.token) : (rotation.step event).Spent := by
  intro place token succeeded row listed named
  rcases step_succeeded event succeeded with before | gone
  · rcases step_rows event listed with old | drawn
    · exact spent place token before row old named
    · rw [named] at drawn
      exact new ⟨token, .succeeded⟩ (List.mem_of_getElem? before) drawn
  · exact gone row listed named

end Step

end Rotation

namespace TokenSession

/-- No token is drawn that was presented before. -/
def New (session : TokenSession) : SessionEvent → Prop
  | .server event => ∀ request ∈ session.rotation.requests,
      event.draws ≠ some request.token
  | _ => True

def Redeemed (session : TokenSession) (token : String) : Prop :=
  ∃ place : ℕ,
    session.rotation.requests[place]? = some ⟨token, .succeeded⟩

/-- No request that the session awaits brings a token: the server has refused
it, or will as its token was redeemed before it looked. -/
def Idle (session : TokenSession) : Prop :=
  ∀ request ∈ session.waiting, ∃ token,
    session.rotation.requests[request]? = some ⟨token, .refused⟩ ∨
      session.rotation.requests[request]? = some ⟨token, .looking⟩ ∧
        session.Redeemed token

/-- No token is drawn twice, and the user does not sign in anew. -/
def Lasting (session : TokenSession) : SessionEvent → Prop
  | .finishSession _ => False
  | event => session.New event

instance decidableNew (session : TokenSession) (event : SessionEvent) :
    Decidable (session.New event) :=
  match event with
  | .server event => inferInstanceAs (Decidable
      (∀ request ∈ session.rotation.requests,
        event.draws ≠ some request.token))
  | .finishSession _ | .refreshAccessToken | .receive _ | .lose _ | .wait _ =>
      .isTrue trivial

instance decidableLasting (session : TokenSession) (event : SessionEvent) :
    Decidable (session.Lasting event) :=
  match event with
  | .finishSession _ => .isFalse id
  | .server event => decidableNew session (.server event)
  | .refreshAccessToken | .receive _ | .lose _ | .wait _ => .isTrue trivial

/-- The server refuses the session's token, and no answer brings another. -/
structure Stranded (pair : RefreshTokenResponse) (session : TokenSession) :
    Prop where
  held : session.held = some pair
  refused : ∀ drawn,
    AuthSvc.refreshToken drawn pair.refreshToken session.rotation.store =
      (.error ServerError.unauthenticated.toStatus, session.rotation.store)
  unanswered : ∀ request ∈ session.waiting, ∀ token,
    session.rotation.requests[request]? ≠ some ⟨token, .succeeded⟩

structure Ended (pair : RefreshTokenResponse) (session : TokenSession) :
    Prop where
  held : session.held = some pair
  spent : session.rotation.Spent
  redeemed : session.Redeemed pair.refreshToken
  idle : session.Idle

private theorem spent_step (session : TokenSession) (event : SessionEvent)
    (spent : session.rotation.Spent) (new : session.New event) :
    (session.step event).rotation.Spent := by
  cases event with
  | server event => exact spent.step event new
  | finishSession row => exact spent
  | refreshAccessToken =>
      simp only [step, refreshAccessToken]
      split
      · rename_i pair held
        exact spent.step (.present pair.refreshToken) fun _ _ => nofun
      · exact spent
  | receive request =>
      simp only [step, receive]
      repeat' split
      all_goals exact spent
  | lose request => exact spent
  | wait now => exact spent

section Ended

variable {pair : RefreshTokenResponse} {session : TokenSession}

theorem Redeemed.server {token : String} (redeemed : session.Redeemed token)
    (event : RotationEvent) : (session.server event).Redeemed token := by
  obtain ⟨place, found⟩ := redeemed
  obtain ⟨next, stored, moves⟩ := Rotation.step_moves event found
  refine ⟨place, stored.trans ?_⟩
  cases moves with
  | stays => rfl
  | fails running => exact absurd rfl running

variable (ended : session.Ended pair)

include ended

private theorem Ended.stranded : session.Stranded pair where
  held := ended.held
  refused drawn := by
    obtain ⟨place, found⟩ := ended.redeemed
    apply AuthSvc.refreshToken_absent
    refine List.find?_eq_none.mpr fun row listed named => ?_
    exact ended.spent place _ found row listed (beq_iff_eq.mp named)
  unanswered request waits token found := by
    obtain ⟨target, refused | ⟨looking, _⟩⟩ := ended.idle request waits
    · rw [refused] at found
      cases found
    · rw [looking] at found
      cases found

theorem Ended.server (event : RotationEvent)
    (new : session.New (.server event)) :
    (session.server event).Ended pair where
  held := ended.held
  spent := ended.spent.step event new
  redeemed := ended.redeemed.server event
  idle := by
    intro request waits
    obtain ⟨token, refused | ⟨looking, redeemed⟩⟩ := ended.idle request waits
    · obtain ⟨next, stored, moves⟩ := Rotation.step_moves event refused
      refine ⟨token, .inl (stored.trans ?_)⟩
      cases moves <;> rfl
    · obtain ⟨next, stored, moves⟩ := Rotation.step_moves event looking
      cases moves with
      | stays => exact ⟨token, .inr ⟨stored, redeemed.server event⟩⟩
      | finds listed named =>
          obtain ⟨place, found⟩ := redeemed
          exact absurd named (ended.spent place token found _ listed)
      | fails => exact ⟨token, .inl stored⟩

theorem Ended.settle (request : ℕ) : (session.settle request).Ended pair :=
  { ended with
    idle := fun other waits =>
      ended.idle other (List.mem_filter.mp waits).1 }

theorem Ended.refreshAccessToken : session.refreshAccessToken.Ended pair := by
  have presented :=
    ended.server (.present pair.refreshToken) fun _ _ => nofun
  simp only [TokenSession.refreshAccessToken, ended.held]
  refine ⟨rfl, presented.spent, presented.redeemed, fun request waits => ?_⟩
  rcases List.mem_append.mp waits with before | added
  · exact presented.idle request before
  · rw [List.mem_singleton.mp added]
    exact ⟨pair.refreshToken, .inr
      ⟨List.getElem?_concat_length, presented.redeemed⟩⟩

theorem Ended.receive (request : ℕ) : (session.receive request).Ended pair := by
  unfold TokenSession.receive
  split
  · rename_i waits
    split
    · rename_i token found
      exact absurd found (ended.stranded.unanswered request waits token)
    · exact ended.settle request
    · exact ended
  · exact ended

end Ended

theorem Ended.step {pair : RefreshTokenResponse} (session : TokenSession)
    (event : SessionEvent) (ended : session.Ended pair)
    (lasting : session.Lasting event) : (session.step event).Ended pair := by
  cases event with
  | server event => exact ended.server event lasting
  | finishSession row => cases lasting
  | refreshAccessToken => exact ended.refreshAccessToken
  | receive request => exact ended.receive request
  | lose request => exact ended.settle request
  | wait now => exact { ended with }

/-- When the server has redeemed the session's token and no answer that the
session awaits brings another, the session keeps a token that nothing revives:
only signing in again helps. -/
theorem lost_answer_ends_session (store : Store)
    (events later : List SessionEvent)
    (new : EventRun.Each step New (start store) events)
    {pair : RefreshTokenResponse}
    (held : (EventRun.run step (start store) events).held = some pair)
    (redeemed : (EventRun.run step (start store) events).Redeemed
      pair.refreshToken)
    (idle : (EventRun.run step (start store) events).Idle)
    (lasting : EventRun.Each step Lasting
      (EventRun.run step (start store) events) later) :
    EventRun.Always step (Stranded pair)
      (EventRun.run step (start store) events) later := by
  have spent : (EventRun.run step (start store) events).rotation.Spent :=
    (EventRun.always_of_step spent_step
      (fun place token found => by simp [start] at found) new).last
  have ended : (EventRun.run step (start store) events).Ended pair :=
    ⟨held, spent, redeemed, idle⟩
  exact (EventRun.always_of_step Ended.step ended lasting).imp
    fun _ ended => ended.stranded

/-- Of three refreshes two are answered, but neither answer arrives. -/
def bothLost : List SessionEvent := [
  .server (.login ⟨"first", 2, 20, 1000⟩),
  .finishSession ⟨"first", 2, 20, 1000⟩,
  .refreshAccessToken, .refreshAccessToken, .refreshAccessToken,
  .server (.lookup 0 100), .server (.lookup 1 100),
  .server (.mint 0 ⟨100, 0, "second"⟩), .server (.delete 0),
  .server (.mint 1 ⟨100, 0, "third"⟩), .server (.delete 1),
  .lose 0, .lose 1]

theorem lost_answer_ends_first :
    EventRun.Always step (Stranded ⟨⟨2, 20⟩, "first"⟩)
      (EventRun.run step (start Rotation.memberStore) bothLost)
      [.server (.lookup 2 100), .receive 2, .refreshAccessToken,
        .server (.lookup 3 100), .receive 3] := by
  refine lost_answer_ends_session Rotation.memberStore bothLost _ (by decide)
    rfl ⟨0, by decide⟩ ?_ (by decide)
  intro request waits
  have only : (EventRun.run step (start Rotation.memberStore)
    bothLost).waiting = [2] := by decide
  rw [only, List.mem_singleton] at waits
  rw [waits]
  exact ⟨"first", .inr ⟨by decide, 0, by decide⟩⟩

end TokenSession

end Accord
