import Accord.Library.EventRun
import Accord.Library.Nested
import Accord.Library.Slots
import Accord.Server.Auth.Service

/-! Refresh requests store call by store call.  A request looks its token up,
stores the replacement and deletes the token; other requests run in
between.  Every token is traced back to the login its session began with. -/

namespace Accord

inductive RefreshPhase where
  | looking
  | minting (row : RefreshRow)
  | deleting
  | succeeded
  | refused
  deriving DecidableEq

structure RefreshRequest where
  token : String
  phase : RefreshPhase
  deriving DecidableEq

namespace RefreshRequest

def inFlight (request : RefreshRequest) : Bool :=
  match request.phase with
  | .looking | .minting _ | .deleting => true
  | .succeeded | .refused => false

/-- The request has found its token and has not deleted it yet. -/
def holds (request : RefreshRequest) : Bool :=
  match request.phase with
  | .minting _ | .deleting => true
  | .looking | .succeeded | .refused => false

end RefreshRequest

/-- `chains` and `logins` record which login a token goes back to; the server
keeps no such record. -/
structure Rotation where
  store : Store
  chains : Mapping String ℕ := ∅
  logins : ℕ := 0
  requests : List RefreshRequest := []

inductive RotationEvent where
  | login (row : RefreshRow)
  | present (token : String)
  | lookup (request : ℕ) (now : Int)
  | mint (request : ℕ) (mint : AuthSvc.Mint)
  | delete (request : ℕ)
  | abort (request : ℕ)

namespace Rotation

def enter (rotation : Rotation) (index : ℕ) (token : String)
    (phase : RefreshPhase) : Rotation :=
  { rotation with requests := rotation.requests.set index ⟨token, phase⟩ }

/-- The end of a login: the first refresh token of a new session. -/
def login (rotation : Rotation) (row : RefreshRow) : Rotation :=
  match Store.storeRefreshToken row rotation.store with
  | (.ok _, store) =>
      { rotation with
        store := store
        chains := rotation.chains.insert row.token rotation.logins
        logins := rotation.logins + 1 }
  | (.error _, store) => { rotation with store := store }

def present (rotation : Rotation) (token : String) : Rotation :=
  { rotation with requests := rotation.requests ++ [⟨token, .looking⟩] }

def lookup (rotation : Rotation) (index : ℕ) (now : Int) : Rotation :=
  match rotation.requests[index]? with
  | some ⟨token, .looking⟩ =>
      match rotation.store.lookupRefreshToken token with
      | some row =>
          if row.expiresAt < now then
            rotation.enter index token .refused
          else
            rotation.enter index token (.minting row)
      | none => rotation.enter index token .refused
  | _ => rotation

def mint (rotation : Rotation) (index : ℕ) (mint : AuthSvc.Mint) :
    Rotation :=
  match rotation.requests[index]? with
  | some ⟨token, .minting row⟩ =>
      match Store.storeRefreshToken (AuthSvc.replacement mint row)
          rotation.store with
      | (.ok _, store) =>
          { rotation.enter index token .deleting with
            store := store
            chains := rotation.chains.insert mint.token
              ((rotation.chains.lookup token).getD rotation.logins) }
      | (.error _, store) =>
          { rotation.enter index token .refused with store := store }
  | _ => rotation

def delete (rotation : Rotation) (index : ℕ) : Rotation :=
  match rotation.requests[index]? with
  | some ⟨token, .deleting⟩ =>
      { rotation.enter index token .succeeded with
        store := rotation.store.deleteRefreshToken token }
  | _ => rotation

/-- A request that fails, or whose client goes away, between two calls. -/
def abort (rotation : Rotation) (index : ℕ) : Rotation :=
  match rotation.requests[index]? with
  | some request =>
      if request.inFlight then
        rotation.enter index request.token .refused
      else
        rotation
  | none => rotation

def step (rotation : Rotation) : RotationEvent → Rotation
  | .login row => rotation.login row
  | .present token => rotation.present token
  | .lookup index now => rotation.lookup index now
  | .mint index drawn => rotation.mint index drawn
  | .delete index => rotation.delete index
  | .abort index => rotation.abort index

def start (store : Store) : Rotation where
  store := { store with refreshTokens := [] }

def SameChain (rotation : Rotation) (first second : String) : Prop :=
  ∃ chain, rotation.chains.lookup first = some chain ∧
    rotation.chains.lookup second = some chain

/-- A token is redeemed at most once, and a session at rest has at most one
live token. -/
structure SingleUse (rotation : Rotation) : Prop where
  once : ∀ (first second : ℕ) (token : String),
    rotation.requests[first]? = some ⟨token, .succeeded⟩ →
    rotation.requests[second]? = some ⟨token, .succeeded⟩ → first = second
  one_live : (∀ request ∈ rotation.requests, request.inFlight = false) →
    ∀ first ∈ rotation.store.refreshTokens,
    ∀ second ∈ rotation.store.refreshTokens,
    rotation.SameChain first.token second.token → first = second

/-- No request finds a token that another request has found and not deleted
yet, no request dies between storing the replacement and deleting its token,
and tokens that are handed out are new. -/
def Serial (rotation : Rotation) : RotationEvent → Prop
  | .login row => rotation.chains.lookup row.token = none
  | .mint _ drawn => rotation.chains.lookup drawn.token = none
  | .lookup index now => ∀ token row,
      rotation.requests[index]? = some ⟨token, .looking⟩ →
      rotation.store.lookupRefreshToken token = some row →
      ¬ row.expiresAt < now → ∀ (other : ℕ) (request : RefreshRequest),
      rotation.requests[other]? = some request → request.token = token →
      request.holds = false
  | .abort index => ∀ token,
      rotation.requests[index]? ≠ some ⟨token, .deleting⟩
  | _ => True

def Doomed (rotation : Rotation) (token : String) : Prop :=
  ∃ index : ℕ, rotation.requests[index]? = some ⟨token, .deleting⟩

structure Serialised (rotation : Rotation) : Prop where
  unique : ∀ first ∈ rotation.store.refreshTokens,
    ∀ second ∈ rotation.store.refreshTokens,
    first.token = second.token → first = second
  issued : ∀ row ∈ rotation.store.refreshTokens,
    ∃ chain, rotation.chains.lookup row.token = some chain
  numbered : ∀ token chain, rotation.chains.lookup token = some chain →
    chain < rotation.logins
  held_live : ∀ (index : ℕ) (request : RefreshRequest),
    rotation.requests[index]? = some request → request.holds = true →
    ∃ row ∈ rotation.store.refreshTokens, row.token = request.token
  held_once : ∀ (first second : ℕ) (one other : RefreshRequest),
    rotation.requests[first]? = some one →
    rotation.requests[second]? = some other → one.holds = true →
    other.holds = true → one.token = other.token → first = second
  spent : ∀ (index : ℕ) (token : String),
    rotation.requests[index]? = some ⟨token, .succeeded⟩ →
    (∀ row ∈ rotation.store.refreshTokens, row.token ≠ token) ∧
      ∃ chain, rotation.chains.lookup token = some chain
  once : ∀ (first second : ℕ) (token : String),
    rotation.requests[first]? = some ⟨token, .succeeded⟩ →
    rotation.requests[second]? = some ⟨token, .succeeded⟩ → first = second
  settled : ∀ first ∈ rotation.store.refreshTokens,
    ∀ second ∈ rotation.store.refreshTokens,
    rotation.SameChain first.token second.token →
    ¬ rotation.Doomed first.token → ¬ rotation.Doomed second.token →
    first = second

private theorem Serialised.singleUse {rotation : Rotation}
    (serialised : rotation.Serialised) : rotation.SingleUse where
  once := serialised.once
  one_live := by
    intro quiet first firstLive second secondLive sameChain
    have safe : ∀ token, ¬ rotation.Doomed token := by
      intro token doomed
      obtain ⟨index, found⟩ := doomed
      have flying := quiet _ (List.mem_of_getElem? found)
      cases flying
    exact serialised.settled first firstLive second secondLive sameChain
      (safe _) (safe _)

private theorem serialised_start (store : Store) :
    (start store).Serialised where
  unique := by
    intro first live
    cases live
  issued := by
    intro row live
    cases live
  numbered := by
    intro token chain found
    cases found
  held_live := by
    intro index request found
    cases found
  held_once := by
    intro first second one other found
    cases found
  spent := by
    intro index token found
    cases found
  once := by
    intro first second token found
    cases found
  settled := by
    intro first live
    cases live

variable {rotation : Rotation}

section Requests

variable {index : ℕ} {token : String} {old new : RefreshPhase}
  (found : rotation.requests[index]? = some ⟨token, old⟩)

include found in
theorem getElem?_enter (other : ℕ) :
    (rotation.enter index token new).requests[other]? =
      if other = index then some ⟨token, new⟩
      else rotation.requests[other]? := by
  exact Slots.getElem?_set_of_found found _ other

include found in
theorem request_cases {other : ℕ} {request : RefreshRequest}
    (stored : (rotation.enter index token new).requests[other]? =
      some request) :
    (other = index ∧ request = ⟨token, new⟩) ∨
      (other ≠ index ∧ rotation.requests[other]? = some request) :=
  Slots.set_cases found stored

include found in
private theorem doomed_enter (target : String) :
    (rotation.enter index token new).Doomed target ↔
      (target = token ∧ new = .deleting) ∨
        ∃ other : ℕ, other ≠ index ∧
          rotation.requests[other]? = some ⟨target, .deleting⟩ := by
  constructor
  · intro doomed
    obtain ⟨other, stored⟩ := doomed
    cases request_cases found stored with
    | inl changed =>
        obtain ⟨_, equality⟩ := changed
        cases equality
        exact Or.inl ⟨rfl, rfl⟩
    | inr kept => exact Or.inr ⟨other, kept⟩
  · intro either
    cases either with
    | inl changed =>
        obtain ⟨rfl, rfl⟩ := changed
        exact ⟨index, by rw [getElem?_enter found, if_pos rfl]⟩
    | inr kept =>
        obtain ⟨other, different, stored⟩ := kept
        refine ⟨other, ?_⟩
        rw [getElem?_enter found, if_neg different]
        exact stored

include found in
private theorem doomed_enter_of {target : String}
    (other : RefreshRequest.mk token old ≠ ⟨target, .deleting⟩)
    (doomed : rotation.Doomed target) :
    (rotation.enter index token new).Doomed target := by
  obtain ⟨place, stored⟩ := doomed
  refine (doomed_enter found target).mpr (Or.inr ⟨place, ?_, stored⟩)
  intro same
  subst same
  rw [found] at stored
  exact other (Option.some.inj stored)

include found in
/-- A request that is not deleting may move on, short of success, if it holds
its token only where that is live and free. -/
theorem Serialised.enter (serialised : rotation.Serialised)
    (oldKeeps : old ≠ .deleting) (unfinished : new ≠ .succeeded)
    (free : RefreshRequest.holds ⟨token, new⟩ = true →
      (∃ row ∈ rotation.store.refreshTokens, row.token = token) ∧
        ∀ (other : ℕ) (request : RefreshRequest), other ≠ index →
          rotation.requests[other]? = some request →
          request.token = token → request.holds = false) :
    (rotation.enter index token new).Serialised where
  unique := serialised.unique
  issued := serialised.issued
  numbered := serialised.numbered
  held_live := by
    intro other request stored holding
    cases request_cases found stored with
    | inl changed =>
        obtain ⟨_, rfl⟩ := changed
        exact (free holding).1
    | inr kept => exact serialised.held_live other request kept.2 holding
  held_once := by
    intro first second one other firstStored secondStored firstHolds
      secondHolds sameToken
    cases request_cases found firstStored with
    | inl changed =>
        obtain ⟨rfl, rfl⟩ := changed
        cases request_cases found secondStored with
        | inl also => exact also.1.symm
        | inr kept =>
            have idle := (free firstHolds).2 second other kept.1 kept.2
              sameToken.symm
            rw [secondHolds] at idle
            cases idle
    | inr kept =>
        cases request_cases found secondStored with
        | inl changed =>
            obtain ⟨rfl, rfl⟩ := changed
            have idle := (free secondHolds).2 first one kept.1 kept.2
              sameToken
            rw [firstHolds] at idle
            cases idle
        | inr also =>
            exact serialised.held_once first second one other kept.2 also.2
              firstHolds secondHolds sameToken
  spent := by
    intro other target stored
    cases request_cases found stored with
    | inl changed =>
        cases changed.2
        exact absurd rfl unfinished
    | inr kept => exact serialised.spent other target kept.2
  once := by
    intro first second target firstStored secondStored
    cases request_cases found firstStored with
    | inl changed =>
        cases changed.2
        exact absurd rfl unfinished
    | inr kept =>
        cases request_cases found secondStored with
        | inl changed =>
            cases changed.2
            exact absurd rfl unfinished
        | inr also =>
            exact serialised.once first second target kept.2 also.2
  settled := by
    intro first firstLive second secondLive sameChain firstSafe secondSafe
    have before : ∀ target, ¬ (rotation.enter index token new).Doomed target →
        ¬ rotation.Doomed target := by
      intro target safe doomed
      apply safe
      apply doomed_enter_of found _ doomed
      intro same
      cases same
      exact oldKeeps rfl
    exact serialised.settled first firstLive second secondLive sameChain
      (before _ firstSafe) (before _ secondSafe)

end Requests

section Steps

variable (serialised : rotation.Serialised)

include serialised in
theorem Serialised.present (token : String) :
    (rotation.present token).Serialised := by
  have request_old : ∀ {index : ℕ} {request : RefreshRequest},
      (rotation.present token).requests[index]? = some request →
      request = ⟨token, .looking⟩ ∨
        rotation.requests[index]? = some request := by
    intro index request stored
    cases Slots.append_cases stored with
    | inl before => exact .inr before
    | inr added => exact .inl added.2
  have holder_old : ∀ {index : ℕ} {request : RefreshRequest},
      (rotation.present token).requests[index]? = some request →
      request.phase ≠ .looking → rotation.requests[index]? = some request := by
    intro index request stored busy
    cases request_old stored with
    | inl equality =>
        subst equality
        exact absurd rfl busy
    | inr kept => exact kept
  have busy_of_holds : ∀ {request : RefreshRequest}, request.holds = true →
      request.phase ≠ .looking := by
    intro request holding idle
    unfold RefreshRequest.holds at holding
    rw [idle] at holding
    cases holding
  constructor
  · exact serialised.unique
  · exact serialised.issued
  · exact serialised.numbered
  · intro index request stored holding
    exact serialised.held_live index request
      (holder_old stored (busy_of_holds holding)) holding
  · intro first second one other firstStored secondStored firstHolds
      secondHolds
    exact serialised.held_once first second one other
      (holder_old firstStored (busy_of_holds firstHolds))
      (holder_old secondStored (busy_of_holds secondHolds)) firstHolds
      secondHolds
  · intro index target stored
    exact serialised.spent index target (holder_old stored (by simp))
  · intro first second target firstStored secondStored
    exact serialised.once first second target
      (holder_old firstStored (by simp)) (holder_old secondStored (by simp))
  · intro first firstLive second secondLive sameChain firstSafe secondSafe
    have before : ∀ target, ¬ (rotation.present token).Doomed target →
        ¬ rotation.Doomed target := by
      intro target safe doomed
      obtain ⟨index, stored⟩ := doomed
      apply safe
      exact ⟨index, Slots.getElem?_append_of_found stored _⟩
    exact serialised.settled first firstLive second secondLive sameChain
      (before _ firstSafe) (before _ secondSafe)

include serialised in
theorem Serialised.lookup (index : ℕ) (now : Int)
    (serial : rotation.Serial (.lookup index now)) :
    (rotation.lookup index now).Serialised := by
  unfold Rotation.lookup
  split
  · rename_i token found
    cases present : rotation.store.lookupRefreshToken token with
    | none =>
        exact serialised.enter found (by simp) (by simp) fun holding => by
          cases holding
    | some row =>
        by_cases expired : row.expiresAt < now
        · simp only [expired, if_true]
          exact serialised.enter found (by simp) (by simp) fun holding => by
            cases holding
        · simp only [expired, if_false]
          refine serialised.enter found (by simp) (by simp) fun _ => ?_
          obtain ⟨live, sameToken⟩ := Store.lookupRefreshToken_eq present
          refine ⟨⟨row, live, sameToken⟩, ?_⟩
          intro other request _ stored equality
          exact serial token row found present expired other request stored
            equality
  · exact serialised

include serialised in
theorem Serialised.abort (index : ℕ)
    (serial : rotation.Serial (.abort index)) :
    (rotation.abort index).Serialised := by
  unfold Rotation.abort
  split
  · rename_i request found
    split
    · obtain ⟨token, phase⟩ := request
      refine serialised.enter found ?_ (by simp) fun holding => by
        cases holding
      intro deleting
      subst deleting
      exact serial token found
    · exact serialised
  · exact serialised

def issue (rotation : Rotation) (row : RefreshRow) (chain logins : ℕ) :
    Rotation :=
  { rotation with
    store := { rotation.store with
      refreshTokens := rotation.store.refreshTokens ++ [row] }
    chains := rotation.chains.insert row.token chain
    logins := logins }

section Issue

variable {row : RefreshRow} {chain logins : ℕ}
  (unused : rotation.chains.lookup row.token = none)

private theorem lookup_issue_own :
    (rotation.issue row chain logins).chains.lookup row.token =
      some chain := by
  simp only [issue, Mapping.lookup_insert_eq, if_true]

include unused in
private theorem token_ne_of_known {token : String} {issued : ℕ}
    (found : rotation.chains.lookup token = some issued) :
    token ≠ row.token := by
  intro same
  rw [same, unused] at found
  cases found

include unused in
private theorem lookup_issue_known {token : String} {issued : ℕ}
    (found : rotation.chains.lookup token = some issued) :
    (rotation.issue row chain logins).chains.lookup token = some issued := by
  have different := token_ne_of_known unused found
  simp only [issue, Mapping.lookup_insert_eq, if_neg different, found]

private theorem live_issue {other : RefreshRow} (live : other ∈
    (rotation.issue row chain logins).store.refreshTokens) :
    other ∈ rotation.store.refreshTokens ∨ other = row := by
  simpa [issue] using live

include serialised unused in
theorem Serialised.joins {old : RefreshRow}
    (live : old ∈ rotation.store.refreshTokens)
    (sameChain : (rotation.issue row chain logins).SameChain old.token
      row.token) : rotation.chains.lookup old.token = some chain := by
  obtain ⟨shared, oldChain, newChain⟩ := sameChain
  rw [lookup_issue_own] at newChain
  cases newChain
  obtain ⟨issued, before⟩ := serialised.issued old live
  rw [lookup_issue_known unused before] at oldChain
  cases oldChain
  exact before

include serialised unused in
theorem Serialised.issue
    (grows : rotation.logins ≤ logins) (known : chain < logins)
    (alone : ∀ old ∈ rotation.store.refreshTokens,
      rotation.chains.lookup old.token = some chain →
      rotation.Doomed old.token) :
    (rotation.issue row chain logins).Serialised := by
  constructor
  · intro first firstLive second secondLive sameToken
    cases live_issue firstLive with
    | inl firstOld =>
        obtain ⟨issued, before⟩ := serialised.issued first firstOld
        cases live_issue secondLive with
        | inl secondOld =>
            exact serialised.unique first firstOld second secondOld sameToken
        | inr secondNew =>
            subst secondNew
            exact absurd sameToken (token_ne_of_known unused before)
    | inr firstNew =>
        subst firstNew
        cases live_issue secondLive with
        | inl secondOld =>
            obtain ⟨issued, before⟩ := serialised.issued second secondOld
            exact absurd sameToken.symm (token_ne_of_known unused before)
        | inr secondNew => exact secondNew.symm
  · intro other live
    cases live_issue live with
    | inl old =>
        obtain ⟨issued, before⟩ := serialised.issued other old
        exact ⟨issued, lookup_issue_known unused before⟩
    | inr new =>
        subst new
        exact ⟨chain, lookup_issue_own⟩
  · intro token issued found
    unfold Rotation.issue at found
    cases Mapping.insert_cases found with
    | inl changed =>
        rw [changed.2]
        exact known
    | inr kept =>
        exact lt_of_lt_of_le (serialised.numbered token issued kept.2) grows
  · intro index request stored holding
    obtain ⟨live, member, sameToken⟩ :=
      serialised.held_live index request stored holding
    exact ⟨live, List.mem_append_left _ member, sameToken⟩
  · exact serialised.held_once
  · intro index token stored
    obtain ⟨gone, issued, before⟩ := serialised.spent index token stored
    refine ⟨?_, issued, lookup_issue_known unused before⟩
    intro other live
    cases live_issue live with
    | inl old => exact gone other old
    | inr new =>
        subst new
        exact Ne.symm (token_ne_of_known unused before)
  · exact serialised.once
  · intro first firstLive second secondLive sameChain firstSafe secondSafe
    cases live_issue firstLive with
    | inl firstOld =>
        obtain ⟨issued, before⟩ := serialised.issued first firstOld
        cases live_issue secondLive with
        | inl secondOld =>
            obtain ⟨other, after⟩ := serialised.issued second secondOld
            obtain ⟨shared, firstChain, secondChain⟩ := sameChain
            rw [lookup_issue_known unused before] at firstChain
            rw [lookup_issue_known unused after] at secondChain
            cases firstChain
            cases secondChain
            exact serialised.settled first firstOld second secondOld
              ⟨_, before, after⟩ firstSafe secondSafe
        | inr secondNew =>
            subst secondNew
            exact absurd (alone first firstOld
              (serialised.joins unused firstOld sameChain)) firstSafe
    | inr firstNew =>
        subst firstNew
        cases live_issue secondLive with
        | inl secondOld =>
            obtain ⟨shared, firstChain, secondChain⟩ := sameChain
            have joined := serialised.joins unused secondOld
              ⟨shared, secondChain, firstChain⟩
            exact absurd (alone second secondOld joined) secondSafe
        | inr secondNew => exact secondNew.symm

end Issue

include serialised in
theorem Serialised.login (row : RefreshRow)
    (serial : rotation.Serial (.login row)) :
    (rotation.login row).Serialised := by
  unfold Rotation.login
  cases accepted : rotation.store.acceptsRefreshToken row with
  | false =>
      obtain ⟨error, refused⟩ := Store.storeRefreshToken_refused accepted
      rw [refused]
      exact serialised
  | true =>
      rw [Store.storeRefreshToken_accepted accepted]
      apply serialised.issue serial (Nat.le_succ _) (Nat.lt_succ_self _)
      intro old live sameChain
      exact absurd (serialised.numbered old.token _ sameChain)
        (Nat.lt_irrefl _)

include serialised in
theorem Serialised.alone {index : ℕ} {request : RefreshRequest}
    (found : rotation.requests[index]? = some request)
    (holding : request.holds = true) :
    ∀ (other : ℕ) (another : RefreshRequest), other ≠ index →
      rotation.requests[other]? = some another →
      another.token = request.token → another.holds = false := by
  intro other another different stored sameToken
  rw [Bool.eq_false_iff]
  intro also
  exact different (serialised.held_once other index another request stored
    found also holding sameToken)

include serialised in
/-- Before its replacement is minted, a token is the only one of its chain
that nobody is deleting. -/
private theorem Serialised.doomed_minting {index chain : ℕ} {token : String}
    {row live : RefreshRow}
    (found : rotation.requests[index]? = some ⟨token, .minting row⟩)
    (liveMember : live ∈ rotation.store.refreshTokens)
    (liveToken : live.token = token)
    (known : rotation.chains.lookup token = some chain) :
    ∀ old ∈ rotation.store.refreshTokens,
      rotation.chains.lookup old.token = some chain →
      (rotation.enter index token .deleting).Doomed old.token := by
  intro old oldLive oldChain
  by_cases same : old.token = token
  · exact (doomed_enter found _).mpr (Or.inl ⟨same, rfl⟩)
  · by_contra safe
    have oldSafe : ¬ rotation.Doomed old.token := fun before =>
      safe (doomed_enter_of found (by simp) before)
    have ownSafe : ¬ rotation.Doomed live.token := by
      intro before
      obtain ⟨other, stored⟩ := before
      have different : other ≠ index := by
        intro equality
        subst equality
        rw [found] at stored
        cases stored
      have idle := serialised.alone found rfl other _ different stored
        liveToken
      cases idle
    have equality := serialised.settled old oldLive live liveMember
      ⟨chain, oldChain, by rw [liveToken]; exact known⟩ oldSafe ownSafe
    rw [equality] at same
    exact same liveToken

include serialised in
theorem Serialised.mint (index : ℕ) (drawn : AuthSvc.Mint)
    (serial : rotation.Serial (.mint index drawn)) :
    (rotation.mint index drawn).Serialised := by
  unfold Rotation.mint
  split
  · rename_i token row found
    have holding : RefreshRequest.holds ⟨token, .minting row⟩ = true := rfl
    obtain ⟨live, liveMember, liveToken⟩ :=
      serialised.held_live index _ found holding
    cases accepted : rotation.store.acceptsRefreshToken
        (AuthSvc.replacement drawn row) with
    | false =>
        obtain ⟨error, refused⟩ := Store.storeRefreshToken_refused accepted
        rw [refused]
        exact serialised.enter found (by simp) (by simp) fun impossible => by
          cases impossible
    | true =>
        rw [Store.storeRefreshToken_accepted accepted]
        obtain ⟨chain, known⟩ := serialised.issued live liveMember
        rw [liveToken] at known
        have entered : (rotation.enter index token .deleting).Serialised :=
          serialised.enter found (by simp) (by simp)
            fun _ => ⟨⟨live, liveMember, liveToken⟩,
              serialised.alone found holding⟩
        rw [known, Option.getD_some]
        have unused : (rotation.enter index token .deleting).chains.lookup
            (AuthSvc.replacement drawn row).token = none := serial
        exact entered.issue unused (Nat.le_refl _)
          (serialised.numbered token chain known)
          (serialised.doomed_minting found liveMember liveToken known)
  · exact serialised

include serialised in
theorem Serialised.delete (index : ℕ) :
    (rotation.delete index).Serialised := by
  unfold Rotation.delete
  split
  · rename_i token found
    have holding : RefreshRequest.holds ⟨token, .deleting⟩ = true := rfl
    obtain ⟨live, liveMember, liveToken⟩ :=
      serialised.held_live index _ found holding
    have kept : ∀ {row : RefreshRow},
        row ∈ (rotation.store.deleteRefreshToken token).refreshTokens ↔
          row ∈ rotation.store.refreshTokens ∧ row.token ≠ token := by
      intro row
      simp [Store.deleteRefreshToken]
    have request_old : ∀ {other : ℕ} {request : RefreshRequest},
        (rotation.enter index token .succeeded).requests[other]? =
          some request → request.holds = true → other ≠ index ∧
          rotation.requests[other]? = some request := by
      intro other request stored also
      cases request_cases found stored with
      | inl changed =>
          obtain ⟨_, rfl⟩ := changed
          cases also
      | inr unchanged => exact unchanged
    constructor
    · intro first firstLive second secondLive
      exact serialised.unique first (kept.mp firstLive).1 second
        (kept.mp secondLive).1
    · intro row rowLive
      exact serialised.issued row (kept.mp rowLive).1
    · exact serialised.numbered
    · intro other request stored also
      obtain ⟨different, before⟩ := request_old stored also
      obtain ⟨row, member, sameToken⟩ :=
        serialised.held_live other request before also
      refine ⟨row, kept.mpr ⟨member, ?_⟩, sameToken⟩
      intro equality
      exact different (serialised.held_once other index request _ before
        found also holding (sameToken.symm.trans equality))
    · intro first second one other firstStored secondStored firstHolds
        secondHolds
      exact serialised.held_once first second one other
        (request_old firstStored firstHolds).2
        (request_old secondStored secondHolds).2 firstHolds secondHolds
    · intro other target stored
      cases request_cases found stored with
      | inl changed =>
          cases changed.2
          obtain ⟨chain, known⟩ := serialised.issued live liveMember
          rw [liveToken] at known
          exact ⟨fun row rowLive => (kept.mp rowLive).2, chain, known⟩
      | inr unchanged =>
          obtain ⟨gone, issued⟩ := serialised.spent other target unchanged.2
          exact ⟨fun row rowLive => gone row (kept.mp rowLive).1, issued⟩
    · intro first second target firstStored secondStored
      have other_target : ∀ other : ℕ, rotation.requests[other]? =
          some ⟨token, .succeeded⟩ → False := by
        intro other stored
        exact (serialised.spent other token stored).1 live liveMember liveToken
      cases request_cases found firstStored with
      | inl changed =>
          cases changed.2
          cases request_cases found secondStored with
          | inl also => exact changed.1.trans also.1.symm
          | inr unchanged => exact (other_target second unchanged.2).elim
      | inr unchanged =>
          cases request_cases found secondStored with
          | inl changed =>
              cases changed.2
              exact (other_target first unchanged.2).elim
          | inr also =>
              exact serialised.once first second target unchanged.2 also.2
    · intro first firstLive second secondLive sameChain firstSafe secondSafe
      have before : ∀ target, target ≠ token →
          ¬ (rotation.enter index token .succeeded).Doomed target →
          ¬ rotation.Doomed target := by
        intro target different safe doomed
        apply safe
        apply doomed_enter_of found _ doomed
        intro same
        cases same
        exact different rfl
      exact serialised.settled first (kept.mp firstLive).1 second
        (kept.mp secondLive).1 sameChain
        (before _ (kept.mp firstLive).2 firstSafe)
        (before _ (kept.mp secondLive).2 secondSafe)
  · exact serialised

end Steps

theorem Serialised.step (rotation : Rotation) (event : RotationEvent)
    (serialised : rotation.Serialised) (serial : rotation.Serial event) :
    (rotation.step event).Serialised := by
  cases event with
  | login row => exact serialised.login row serial
  | present token => exact serialised.present token
  | lookup index now => exact serialised.lookup index now serial
  | mint index drawn => exact serialised.mint index drawn serial
  | delete index => exact serialised.delete index
  | abort index => exact serialised.abort index serial

section Solo

variable {index : ℕ} {token : String} {drawn : AuthSvc.Mint}

private theorem ended_refused
    (stored : rotation.requests[index]? = some ⟨token, .refused⟩) :
    (rotation.mint index drawn).delete index = rotation := by
  have unminted : rotation.mint index drawn = rotation := by
    unfold Rotation.mint
    rw [stored]
  rw [unminted]
  unfold Rotation.delete
  rw [stored]

private theorem enter_self {old : RefreshPhase} (new : RefreshPhase)
    (found : rotation.requests[index]? = some ⟨token, old⟩) :
    (rotation.enter index token new).requests[index]? =
      some ⟨token, new⟩ := by
  rw [getElem?_enter found, if_pos rfl]

structure Finished (before after : Rotation) (index : ℕ) (token : String)
    (drawn : AuthSvc.Mint) : Prop where
  store : after.store = (AuthSvc.refreshToken drawn token before.store).2
  request : after.requests[index]? = some ⟨token,
    if (AuthSvc.refreshToken drawn token before.store).1.isOk then .succeeded
    else .refused⟩

variable (found : rotation.requests[index]? = some ⟨token, .looking⟩)

include found in
private theorem finished_refused {error : Status}
    (answer : AuthSvc.refreshToken drawn token rotation.store =
      (.error error, rotation.store)) :
    Finished rotation
      (((rotation.enter index token .refused).mint index drawn).delete index)
      index token drawn := by
  rw [ended_refused (enter_self .refused found)]
  constructor
  · rw [answer]
    rfl
  · rw [answer]
    exact enter_self .refused found

include found in
private theorem finished_minting {row : RefreshRow}
    (live : rotation.store.lookupRefreshToken token = some row)
    (current : ¬ row.expiresAt < drawn.now) :
    Finished rotation
      (((rotation.enter index token (.minting row)).mint index drawn).delete
        index) index token drawn := by
  have minting := enter_self (.minting row) found
  unfold Rotation.mint
  simp only [minting]
  change Finished rotation (Rotation.delete (match Store.storeRefreshToken
    (AuthSvc.replacement drawn row) rotation.store with
    | (.ok _, store) => _
    | (.error _, store) => _) index) index token drawn
  cases accepted : rotation.store.acceptsRefreshToken
      (AuthSvc.replacement drawn row) with
  | false =>
      obtain ⟨error, rejected⟩ := Store.storeRefreshToken_refused accepted
      obtain ⟨status, answer⟩ :=
        AuthSvc.refreshToken_refused live current accepted
      have ended := enter_self .refused minting
      simp only [rejected, Rotation.delete, ended]
      constructor
      · rw [answer]
      · rw [answer]
        exact ended
  | true =>
      have stored := Store.storeRefreshToken_accepted accepted
      have answer := AuthSvc.refreshToken_accepted live current accepted
      have deleting := enter_self .deleting minting
      simp only [stored, Rotation.delete, deleting]
      constructor
      · rw [answer]
      · rw [answer]
        exact enter_self .succeeded deleting

include found in
theorem solo_refresh :
    Finished rotation
      (((rotation.lookup index drawn.now).mint index drawn).delete index)
      index token drawn := by
  unfold Rotation.lookup
  simp only [found]
  cases present : rotation.store.lookupRefreshToken token with
  | none => exact finished_refused found (AuthSvc.refreshToken_absent present)
  | some row =>
      simp only
      split
      · rename_i expired
        exact finished_refused found
          (AuthSvc.refreshToken_expired present expired)
      · rename_i current
        exact finished_minting found present current

end Solo

/-- Refresh tokens are single use in every state of every serial run. -/
theorem singleUse_of_serial (store : Store) (events : List RotationEvent)
    (serial : EventRun.Each step Serial (start store) events) :
    EventRun.Always step SingleUse (start store) events :=
  (EventRun.always_of_step Serialised.step (serialised_start store)
    serial).imp fun _ serialised => serialised.singleUse

def memberStore : Store where
  users := [⟨2, "member", "Member", "", false, false, none, ""⟩]
  devices := [⟨20, 2, "phone", none⟩]

def soloRefresh : List RotationEvent := [
  .login ⟨"first", 2, 20, 1000⟩, .present "first", .lookup 0 100,
  .mint 0 ⟨100, 0, "second"⟩, .delete 0]

theorem soloRefresh_singleUse :
    EventRun.Always step SingleUse (start memberStore) soloRefresh ∧
      (EventRun.run step (start memberStore) soloRefresh).requests =
        [⟨"first", .succeeded⟩] := by
  refine ⟨singleUse_of_serial memberStore soloRefresh ?_, by decide⟩
  refine ⟨rfl, trivial, ?_, rfl, trivial, trivial⟩
  intro token row _ _ _ other request stored _
  have only : (EventRun.run step (start memberStore)
      [.login ⟨"first", 2, 20, 1000⟩, .present "first"]).requests =
        [⟨"first", .looking⟩] := by decide
  have member := List.mem_of_getElem? stored
  change request ∈ (EventRun.run step (start memberStore)
      [.login ⟨"first", 2, 20, 1000⟩, .present "first"]).requests at member
  rw [only, List.mem_singleton] at member
  rw [member]
  rfl

/-- Two requests with one token, both looked up before either deletes it. -/
def overlappingRefresh : List RotationEvent := [
  .login ⟨"first", 2, 20, 1000⟩, .present "first", .present "first",
  .lookup 0 100, .lookup 1 100,
  .mint 0 ⟨100, 0, "second"⟩, .delete 0,
  .mint 1 ⟨100, 0, "third"⟩, .delete 1]

theorem overlappingRefresh_redeems_twice :
    ¬ EventRun.Always step SingleUse (start memberStore)
      overlappingRefresh := by
  intro always
  have same := always.last.once 0 1 "first" (by decide) (by decide)
  cases same

end Rotation

end Accord
