import Accord.Library.Keyed
import Accord.Server.Store.Model
import Accord.Types.Codes

/-! `FriendService`: friend requests, parked on the node of the user they are
for. -/

namespace Accord

structure FriendRequestRow where
  id : Uuid
  recipient : Uuid
  senderIdentity : Bytes
  kind : String
  contactCode : String
  createdAt : Int
  deriving DecidableEq

namespace FriendRequestRow

def keyOf (row : FriendRequestRow) : Uuid × Bytes × String :=
  (row.recipient, row.senderIdentity, row.kind)

def withCode (contactCode : String) (row : FriendRequestRow) :
    FriendRequestRow :=
  { row with contactCode }

end FriendRequestRow

/-- `friend_requests`, with its `UNIQUE` constraint. -/
abbrev FriendRequests := Keyed FriendRequestRow.keyOf

structure FriendTables where
  store : Store := {}
  requests : FriendRequests := {}

structure RequestDraw where
  id : Uuid
  now : Int
  deriving DecidableEq

namespace FriendTables

def countFriendRequests (tables : FriendTables) (recipient : Uuid) : ℕ :=
  tables.requests.rows.countP (·.recipient == recipient)

def hasRequest (tables : FriendTables) (id : Uuid) : Bool :=
  tables.requests.rows.any (·.id == id)

/-- A row that is there already keeps its id and its time.  A new one needs an
id of its own and the user it is for. -/
def upsertFriendRequest (draw : RequestDraw) (recipient : Uuid)
    (senderIdentity : Bytes) (kind contactCode : String) :
    Effect FriendTables ServerError Unit := do
  let key := (recipient, senderIdentity, kind)
  Effect.check
    (fun tables => decide (tables.requests.Has key) ||
      !tables.hasRequest draw.id)
    Store.duplicate
  Effect.check
    (fun tables => decide (tables.requests.Has key) ||
      tables.store.referencesHold (tables.store.hasUser recipient))
    Store.violation
  Effect.update fun tables =>
    { tables with
      requests := tables.requests.upsert
        { id := draw.id, recipient, senderIdentity, kind, contactCode
          createdAt := draw.now }
        { apply := FriendRequestRow.withCode contactCode } }

def listFriendRequests (tables : FriendTables) (recipient : Uuid) :
    List FriendRequestRow :=
  (tables.requests.rows.filter (·.recipient == recipient)).mergeSort
    fun first second => first.createdAt ≤ second.createdAt

def deleteFriendRequest (tables : FriendTables) (recipient : Uuid)
    (id : String) : FriendTables :=
  { tables with
    requests := tables.requests.filter fun row =>
      !(row.id.text == id && row.recipient == recipient) }

end FriendTables

namespace FriendSvc

def maxParkedRequests : ℕ := 50

def maxCodeLen : ℕ := 8 * 1024

structure SendFriendRequestRequest where
  recipient : Option IdText
  kind : String
  contactCode : String
  deriving DecidableEq

structure FriendRequestEntry where
  id : String
  contactCode : String
  kind : String
  createdAtMs : Int
  deriving DecidableEq

def checkKind (kind : String) : Except ServerError Unit :=
  if kind ≠ "request" ∧ kind ≠ "accept" then
    .error (.invalidArgument "kind must be 'request' or 'accept'")
  else .ok ()

/-- The identity of the sender, which the contact code carries. -/
def checkCode (codec : JsonCodec ContactCode) (contactCode : String) :
    Except ServerError Bytes :=
  if maxCodeLen < contactCode.utf8ByteSize then
    .error (.invalidArgument "contact code too large")
  else
    match ContactCode.decode codec contactCode with
    | .error error =>
        .error (.invalidArgument ("bad contact code: " ++ error.text))
    | .ok parsed =>
        if parsed.identityPubkey.length ≠ 32 then
          .error (.invalidArgument "contact code has an invalid identity")
        else .ok parsed.identityPubkey

def tooMany : ServerError :=
  .rateLimited "this user has too many pending friend requests"

def sendFriendRequest (codec : JsonCodec ContactCode) (draw : RequestDraw)
    (token : Option Claims) (req : SendFriendRequestRequest) :
    Effect FriendTables Status Unit := do
  let _ ← authenticate token
  let recipient ← Effect.ofOption (req.recipient.bind IdText.parse)
    (ServerError.invalidArgument "recipient id required")
  orStatus (Effect.ofExcept (checkKind req.kind))
  let identity ← orStatus (Effect.ofExcept (checkCode codec req.contactCode))
  Effect.check
    (fun tables =>
      decide (tables.countFriendRequests recipient < maxParkedRequests))
    tooMany
  orStatus (FriendTables.upsertFriendRequest draw recipient identity req.kind
    req.contactCode)

def listFriendRequests (token : Option Claims) :
    Effect FriendTables Status (List FriendRequestEntry) := do
  let claims ← authenticate token
  let rows ← Effect.read fun tables : FriendTables =>
    tables.listFriendRequests claims.sub
  pure (rows.map fun row =>
    ⟨row.id.text, row.contactCode, row.kind, row.createdAt⟩)

def deleteFriendRequest (token : Option Claims) (id : String) :
    Effect FriendTables Status Unit := do
  let claims ← authenticate token
  Effect.update (·.deleteFriendRequest claims.sub id)

end FriendSvc

/-! Sending a request again. -/

/-- A request that passes every check on itself: it is for a user of this
node, and its code carries `identity`. -/
structure ValidRequest (codec : JsonCodec ContactCode)
    (token : Option Claims) (req : FriendSvc.SendFriendRequestRequest)
    (tables : FriendTables) (recipient : Uuid) (identity : Bytes) :
    Prop where
  authenticated : token.isSome = true
  recipientRead : req.recipient.bind IdText.parse = some recipient
  kindKnown : FriendSvc.checkKind req.kind = .ok ()
  codeRead : FriendSvc.checkCode codec req.contactCode = .ok identity
  known : tables.store.referencesHold (tables.store.hasUser recipient) = true

namespace FriendTables

/-- The row under `key` has the new code, and the table is otherwise what it
was. -/
structure Refreshed (before after : FriendTables)
    (key : Uuid × Bytes × String) (contactCode : String) : Prop where
  store : after.store = before.store
  code : after.requests.find key =
    (before.requests.find key).map (FriendRequestRow.withCode contactCode)
  others : ∀ other, other ≠ key →
    after.requests.find other = before.requests.find other
  length : after.requests.rows.length = before.requests.rows.length

/-- A request that is parked is accepted and refreshed, and another one is
refused only where there is no room for it. -/
structure Receives (tables : FriendTables) (key : Uuid × Bytes × String)
    (contactCode : String) (outcome : Except Status Unit × FriendTables) :
    Prop where
  refreshed : tables.requests.Has key → outcome.1 = .ok () ∧
    tables.Refreshed outcome.2 key contactCode
  refused : ¬tables.requests.Has key → ((∃ status, outcome.1 = .error status) ↔
    FriendSvc.maxParkedRequests ≤ tables.countFriendRequests key.1)

section Upsert

variable {tables : FriendTables} {draw : RequestDraw} {recipient : Uuid}
  {identity : Bytes} {kind contactCode : String}

private theorem upsertFriendRequest_of_parked
    (parked : tables.requests.Has (recipient, identity, kind)) :
    upsertFriendRequest draw recipient identity kind contactCode tables =
      (.ok (), { tables with
        requests := tables.requests.modify (recipient, identity, kind)
          { apply := FriendRequestRow.withCode contactCode } }) := by
  simp only [upsertFriendRequest, Effect.check_bind, parked, decide_true,
    Bool.true_or, if_true]
  rw [Effect.update, Keyed.upsert_of_has]
  · rfl
  · exact parked

private theorem upsertFriendRequest_of_new
    (new : ¬tables.requests.Has (recipient, identity, kind))
    (fresh : tables.hasRequest draw.id = false)
    (known : tables.store.referencesHold
      (tables.store.hasUser recipient) = true) :
    (upsertFriendRequest draw recipient identity kind contactCode tables).1 =
      .ok () := by
  simp only [upsertFriendRequest, Effect.check_bind, new, decide_false,
    Bool.false_or, fresh, known, Bool.not_false, if_true]
  rfl

private theorem refreshed_modify (key : Uuid × Bytes × String) :
    tables.Refreshed
      { tables with
        requests := tables.requests.modify key
          { apply := FriendRequestRow.withCode contactCode } }
      key contactCode where
  store := rfl
  code := Keyed.find_modify_self
  others _ differ := Keyed.find_modify_other differ
  length := Keyed.length_modify

end Upsert

end FriendTables

namespace FriendSvc

variable {codec : JsonCodec ContactCode} {draw : RequestDraw}
  {token : Option Claims} {req : SendFriendRequestRequest}
  {tables : FriendTables} {recipient : Uuid} {identity : Bytes}

private theorem sendFriendRequest_of_valid
    (valid : ValidRequest codec token req tables recipient identity) :
    sendFriendRequest codec draw token req tables =
      if tables.countFriendRequests recipient < maxParkedRequests then
        orStatus (FriendTables.upsertFriendRequest draw recipient identity
          req.kind req.contactCode) tables
      else (.error tooMany.toStatus, tables) := by
  obtain ⟨claims, rfl⟩ := Option.isSome_iff_exists.mp valid.authenticated
  unfold sendFriendRequest
  rw [authenticate_bind, valid.recipientRead, valid.kindKnown,
    valid.codeRead]
  refine (Effect.check_bind _ _ _ tables).trans ?_
  simp only [decide_eq_true_eq]

private theorem not_receives_of_full
    (valid : ValidRequest codec token req tables recipient identity)
    (parked : tables.requests.Has (recipient, identity, req.kind))
    (full : maxParkedRequests ≤ tables.countFriendRequests recipient) :
    ¬tables.Receives (recipient, identity, req.kind) req.contactCode
      (sendFriendRequest codec draw token req tables) := by
  intro receives
  have accepted := (receives.refreshed parked).1
  rw [sendFriendRequest_of_valid valid, if_neg (Nat.not_lt.mpr full)]
    at accepted
  cases accepted

/-- The cap does not ask whether the request is one that is parked. -/
theorem receives_iff
    (valid : ValidRequest codec token req tables recipient identity)
    (fresh : tables.hasRequest draw.id = false) :
    tables.Receives (recipient, identity, req.kind) req.contactCode
        (sendFriendRequest codec draw token req tables) ↔
      ¬(tables.requests.Has (recipient, identity, req.kind) ∧
        maxParkedRequests ≤ tables.countFriendRequests recipient) := by
  constructor
  · rintro receives ⟨parked, full⟩
    exact not_receives_of_full valid parked full receives
  · intro room
    rw [sendFriendRequest_of_valid valid]
    by_cases full : maxParkedRequests ≤ tables.countFriendRequests recipient
    · rw [if_neg (Nat.not_lt.mpr full)]
      exact {
        refreshed := fun parked => absurd ⟨parked, full⟩ room
        refused := fun _ => ⟨fun _ => full, fun _ => ⟨_, rfl⟩⟩ }
    · rw [if_pos (Nat.not_le.mp full)]
      refine ⟨fun parked => ?_, fun new => ?_⟩
      · rw [orStatus_of_ok
          (FriendTables.upsertFriendRequest_of_parked parked)]
        exact ⟨rfl, FriendTables.refreshed_modify _⟩
      · have accepted : (FriendTables.upsertFriendRequest draw recipient
            identity req.kind req.contactCode tables).1 = .ok () :=
          FriendTables.upsertFriendRequest_of_new new fresh valid.known
        refine ⟨?_, fun many => absurd many full⟩
        rintro ⟨status, refused⟩
        rw [orStatus_of_ok (Prod.ext accepted rfl)] at refused
        cases refused

def crowd (count : ℕ) (few : count ≤ 256) : FriendTables where
  store := { users := [⟨1, "ana", "Ana", "", false, false, none, ""⟩] }
  requests :=
    { rows := (List.range count).map fun number =>
        { id := BitVec.ofNat 128 number, recipient := 1
          senderIdentity := UInt8.ofNat number :: List.replicate 31 0
          kind := "request", contactCode := "old"
          createdAt := 0 }
      unique := by
        rw [List.map_map]
        refine List.Nodup.map_on ?_ List.nodup_range
        intro first inFirst second inSecond same
        have bytes := congrArg (fun key => key.2.1.head?) same
        have numbers := congrArg UInt8.toNat (Option.some.inj bytes)
        rw [List.mem_range] at inFirst inSecond
        rwa [UInt8.toNat_ofNat', UInt8.toNat_ofNat', Nat.mod_eq_of_lt,
          Nat.mod_eq_of_lt] at numbers
        all_goals omega }

def nobody : ContactCode := { identityPubkey := List.replicate 32 0 }

def resent : SendFriendRequestRequest where
  recipient := some (.uuid 1)
  kind := "request"
  contactCode := nobody.encode (.ofFormat ContactCode.json)

private theorem utf8ByteSize_ofList_le (chars : List Char) :
    (String.ofList chars).utf8ByteSize ≤ 4 * chars.length := by
  induction chars with
  | nil => exact Nat.zero_le _
  | cons char chars induction =>
      have size := char.utf8Size_le_four
      rw [String.ofList_cons, String.utf8ByteSize_append,
        String.utf8ByteSize_singleton, List.length_cons]
      omega

private theorem checkCode_nobody :
    checkCode (.ofFormat ContactCode.json)
      (nobody.encode (.ofFormat ContactCode.json)) =
      .ok nobody.identityPubkey := by
  have short : (nobody.encode (.ofFormat ContactCode.json)).utf8ByteSize ≤
      maxCodeLen := by
    rw [ContactCode.encode, Paste.encode, String.utf8ByteSize_append]
    refine Nat.le_trans
      (Nat.add_le_add_left (utf8ByteSize_ofList_le _) _) ?_
    decide +kernel
  have read := (pasted_codes (.ofFormat InviteKey.json)
    (.ofFormat ContactCode.json)).contactRead nobody "" "" (by decide)
      (by decide)
  rw [String.empty_append, String.append_empty] at read
  unfold checkCode
  rw [if_neg (Nat.not_lt.mpr short), read]
  rfl

private theorem resent_valid (count : ℕ) (few : count ≤ 256) :
    ValidRequest (.ofFormat ContactCode.json) (some ⟨2, 3⟩) resent
      (crowd count few) 1 (List.replicate 32 0) where
  authenticated := rfl
  recipientRead := rfl
  kindKnown := rfl
  codeRead := checkCode_nobody
  known := rfl

theorem resent_received :
    (crowd 3 (by decide)).Receives (1, List.replicate 32 0, resent.kind)
      resent.contactCode
      (sendFriendRequest (.ofFormat ContactCode.json) ⟨99, 0⟩
        (some ⟨2, 3⟩) resent (crowd 3 (by decide))) :=
  (receives_iff (resent_valid 3 (by decide)) (by decide)).mpr
    fun many => absurd many.2 (by decide)

/-- Fifty have parked a request, and one of them sends it again. -/
theorem resent_refused :
    ¬(crowd 50 (by decide)).Receives (1, List.replicate 32 0, resent.kind)
      resent.contactCode
      (sendFriendRequest (.ofFormat ContactCode.json) ⟨99, 0⟩
        (some ⟨2, 3⟩) resent (crowd 50 (by decide))) :=
  not_receives_of_full (resent_valid 50 (by decide)) (by decide) (by decide)

end FriendSvc

end Accord
