import Accord.Library.Effect
import Accord.Types.Text

namespace Accord

inductive ServerError where
  | unauthenticated
  | permissionDenied
  | alreadyExists (what : String)
  | notFound (what : String)
  | invalidArgument (what : String)
  | rateLimited (what : String)
  | database (cause : String)
  | migration (cause : String)
  | internal (cause : String)
  | redis (cause : String)
  | passwordHash (cause : String)
  | token (cause : String)
  deriving DecidableEq

inductive Code where
  | cancelled
  | unknown
  | invalidArgument
  | deadlineExceeded
  | notFound
  | alreadyExists
  | permissionDenied
  | resourceExhausted
  | failedPrecondition
  | aborted
  | outOfRange
  | unimplemented
  | internal
  | unavailable
  | dataLoss
  | unauthenticated
  deriving DecidableEq

structure Status where
  code : Code
  message : String
  deriving DecidableEq

/-- Internal failures reach the client without their cause. -/
def ServerError.toStatus : ServerError → Status
  | .unauthenticated => ⟨.unauthenticated, "authentication failed"⟩
  | .permissionDenied => ⟨.permissionDenied, "permission denied"⟩
  | .alreadyExists what => ⟨.alreadyExists, "already exists: " ++ what⟩
  | .notFound what => ⟨.notFound, "not found: " ++ what⟩
  | .invalidArgument what => ⟨.invalidArgument, "invalid argument: " ++ what⟩
  | .rateLimited what => ⟨.resourceExhausted, "rate limited: " ++ what⟩
  | .database _ => ⟨.internal, "internal server error"⟩
  | .migration _ => ⟨.internal, "internal server error"⟩
  | .internal _ => ⟨.internal, "internal server error"⟩
  | .redis _ => ⟨.internal, "internal server error"⟩
  | .passwordHash _ => ⟨.internal, "internal server error"⟩
  | .token _ => ⟨.internal, "internal server error"⟩

instance : Coe ServerError Status := ⟨ServerError.toStatus⟩

/-- The claims of an access token that passed verification.  Tokens are only
minted from stored ids, so both fields are ids already. -/
structure Claims where
  sub : Uuid
  deviceId : Uuid
  deriving DecidableEq

section Requests

variable {State : Type}

/-- `none` is a request whose token is missing or does not verify. -/
def authenticate (token : Option Claims) : Effect State Status Claims :=
  Effect.ofOption token ServerError.unauthenticated

def parseUuid (text : IdText) (what : String) : Effect State Status Uuid :=
  Effect.ofOption text.parse
    (ServerError.invalidArgument ("invalid " ++ what))

/-- A store call inside a handler: its failure becomes the handler's. -/
def orStatus {Value : Type} (inner : Effect State ServerError Value) :
    Effect State Status Value :=
  inner.mapError ServerError.toStatus

theorem readOnly_authenticate (token : Option Claims) :
    (authenticate token : Effect State Status Claims).ReadOnly :=
  Effect.readOnly_ofOption _ _

theorem readOnly_parseUuid (text : IdText) (what : String) :
    (parseUuid text what : Effect State Status Uuid).ReadOnly :=
  Effect.readOnly_ofOption _ _

section OrStatus

variable {Value : Type} {inner : Effect State ServerError Value}
  {state after : State}

theorem orStatus_of_ok {value : Value}
    (ran : inner state = (.ok value, after)) :
    orStatus inner state = (.ok value, after) := by
  simp only [orStatus, Effect.mapError, ran]
  rfl

theorem orStatus_of_error {error : ServerError}
    (ran : inner state = (.error error, after)) :
    orStatus inner state = (.error error.toStatus, after) := by
  simp only [orStatus, Effect.mapError, ran]
  rfl

theorem orStatus_congr {other : Effect State ServerError Value}
    (same : inner state = other state) :
    orStatus inner state = orStatus other state := by
  simp only [orStatus, Effect.mapError, same]

theorem orStatus_store : (orStatus inner state).2 = (inner state).2 := by
  rcases ran : inner state with ⟨error | value, after⟩
  · rw [orStatus_of_error ran]
  · rw [orStatus_of_ok ran]

end OrStatus

theorem authenticate_some (claims : Claims) (state : State) :
    authenticate (some claims) state = (.ok claims, state) := rfl

theorem authenticate_bind {Value : Type} (claims : Claims)
    (rest : Claims → Effect State Status Value) :
    (authenticate (some claims) >>= rest) = rest claims := rfl

private theorem authenticate_ok {token : Option Claims} {state : State}
    {claims : Claims}
    (accepted : (authenticate token state).1 = .ok claims) :
    token = some claims :=
  Effect.ofOption_ok accepted

/-- A call goes on with the claims of its token, or leaves all as it is. -/
theorem post_authenticate {Value : Type} {token : Option Claims}
    {state : State} {rest : Claims → Effect State Status Value}
    {post : Except Status Value → State → Prop}
    (refused : ∀ status, post (.error status) state)
    (accepted : ∀ claims, token = some claims →
      (rest claims).Post state post) :
    (authenticate token >>= rest).Post state post := by
  refine (readOnly_authenticate token).post_bind
    (fun status _ => refused status) ?_
  intro claims passed
  exact accepted claims (authenticate_ok passed)

end Requests

end Accord
