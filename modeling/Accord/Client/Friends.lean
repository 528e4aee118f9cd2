import Accord.Client.Contacts
import Accord.Library.Tasks

/-! Friend requests, await by await.  A request or an acceptance is delivered
to the node of the peer and kept in an outbox until that succeeds; what others
send waits in rows on the user's own home node. -/

namespace Accord

inductive RequestKind where
  | request
  | accept
  deriving DecidableEq

structure OutboxEntry where
  peerId : String
  peerCode : CodeText
  peerName : String
  kind : RequestKind
  myDisplay : String
  sentAtMs : Int
  delivered : Bool
  peerUsername : Option String := none
  peerDisplay : Option String := none
  deriving DecidableEq

structure FriendRequestEntry where
  id : String
  contactCode : CodeText
  kind : String
  deriving DecidableEq

inductive FriendRequestPolicy where
  | everyone
  | tavernMembers
  | friendsOfFriends
  | noOne
  deriving DecidableEq

/-- What the node of a peer has parked: it is the node, and the user there,
that the code names. -/
structure FriendDelivery where
  kind : RequestKind
  code : CodeText
  deriving DecidableEq

/-- How an attempt to deliver ends.  The node may have parked the row although
its reply is lost. -/
inductive DeliverAnswer where
  | failed
  | unacknowledged
  | acknowledged (profile : Option (String × String))
  deriving DecidableEq

/-- A sync has marked `entry` as delivered, for its delivery of `done`. -/
structure Marking where
  done : OutboxEntry
  entry : OutboxEntry
  deriving DecidableEq

structure Acceptance where
  row : FriendRequestEntry
  peerId : String
  deriving DecidableEq

def targetFromCode (code : CodeText) :
    Except String (ContactTarget × Bytes) := do
  let parsed ← Contacts.validate code
  return (
    { name := parsed.name.getD "Unknown"
      addresses := parsed.addresses
      cert := parsed.cert
      hostUserId := parsed.hostUserId },
    parsed.identityPubkey)

namespace OutboxEntry

/-- Whose entry it is: there is one of a kind for a peer. -/
def key (entry : OutboxEntry) : String × RequestKind :=
  (entry.peerId, entry.kind)

def recipient (entry : OutboxEntry) : Option String :=
  (targetFromCode entry.peerCode).toOption.bind fun found => found.1.hostUserId

def withProfile (entry : OutboxEntry) :
    Option (String × String) → OutboxEntry
  | some (username, display) =>
      { entry with
        peerUsername := some username
        peerDisplay := some display }
  | none => entry

def withDisplay (entry : OutboxEntry) (myDisplay : String) : OutboxEntry :=
  if entry.myDisplay.isEmpty then { entry with myDisplay } else entry

def settled (entry : OutboxEntry) : Bool :=
  entry.delivered && (entry.peerDisplay.isSome || entry.kind != .request)

def mark (done entry : OutboxEntry) : OutboxEntry :=
  { entry with
    delivered := true
    peerUsername := done.peerUsername.or entry.peerUsername
    peerDisplay := done.peerDisplay.or entry.peerDisplay }

end OutboxEntry

namespace Outbox

def without (peerId : String) (kind : RequestKind)
    (outbox : List OutboxEntry) : List OutboxEntry :=
  outbox.filter fun entry => entry.key != (peerId, kind)

/-- The first entry of the peer and kind of `done` is marked. -/
def markFirst (done : OutboxEntry) : List OutboxEntry → List OutboxEntry
  | [] => []
  | entry :: rest =>
      if entry.key = done.key then done.mark entry :: rest
      else entry :: markFirst done rest

def markAll (deliveredNow outbox : List OutboxEntry) : List OutboxEntry :=
  deliveredNow.foldl (fun outbox done => markFirst done outbox) outbox

/-- A request whose acceptance was consumed, or an acceptance that is
delivered: nothing further comes of either. -/
def complete (acceptedPeers : List String) (entry : OutboxEntry) : Bool :=
  (entry.kind == .request && acceptedPeers.contains entry.peerId) ||
    (entry.kind == .accept && entry.delivered)

def merge (deliveredNow : List OutboxEntry) (acceptedPeers : List String)
    (outbox : List OutboxEntry) : List OutboxEntry :=
  (markAll deliveredNow outbox).filter fun entry =>
    !complete acceptedPeers entry

def markings (deliveredNow outbox : List OutboxEntry) : List Marking :=
  deliveredNow.filterMap fun done =>
    (outbox.find? fun entry => entry.key = done.key).map fun entry =>
      ⟨done, entry⟩

/-! What the commands make of the outbox under its lock, with whether that
changes it. -/

/-- The entry takes the place of the request to its peer. -/
def replaceRequest (entry : OutboxEntry) (outbox : List OutboxEntry) :
    Bool × List OutboxEntry :=
  (true, without entry.peerId .request outbox ++ [entry])

/-- An acceptance stays only while it is undelivered. -/
def queueAcceptance (entry : OutboxEntry) (outbox : List OutboxEntry) :
    Bool × List OutboxEntry :=
  (true, without entry.peerId .accept outbox ++
    if entry.delivered then [] else [entry])

def withdraw (peerId : String) (outbox : List OutboxEntry) :
    Bool × List OutboxEntry :=
  let kept := without peerId .request outbox
  (kept.length != outbox.length, kept)

def mergeSync (deliveredNow : List OutboxEntry) (acceptedPeers : List String)
    (outbox : List OutboxEntry) : Bool × List OutboxEntry :=
  let changed := !(markings deliveredNow outbox).isEmpty
  let kept := merge deliveredNow acceptedPeers outbox
  (changed || kept.length != outbox.length, kept)

end Outbox

/-- The outbox and the contact list of a client, the rows on its home node and
what the nodes of its peers hold.  `markings` and `completed`, the acceptances
that syncs have taken out as delivered, are on no record of the code. -/
structure Friends where
  outbox : List OutboxEntry := []
  contacts : List StoredContact := []
  parked : List FriendRequestEntry := []
  deliveries : List FriendDelivery := []
  markings : List Marking := []
  completed : List OutboxEntry := []

namespace Friends

variable (friends : Friends)

def deliver (answer : DeliverAnswer) (entry : OutboxEntry) :
    Friends × OutboxEntry × Bool :=
  match entry.recipient, answer with
  | none, _ => (friends, entry, false)
  | some _, .failed => (friends, entry, false)
  | some _, .unacknowledged =>
      ({ friends with
          deliveries := friends.deliveries ++ [⟨entry.kind, entry.peerCode⟩] },
        entry, false)
  | some _, .acknowledged profile =>
      ({ friends with
          deliveries := friends.deliveries ++ [⟨entry.kind, entry.peerCode⟩] },
        entry.withProfile profile, true)

/-- Read, change and write under the lock of the outbox.  A file that cannot be
read or opened has no entries. -/
def updateOutbox (file : FileUse String)
    (mutate : List OutboxEntry → Bool × List OutboxEntry) : Friends :=
  { friends with outbox := file.rewrite [] mutate friends.outbox }

/-- The marks and what is finished with are those of a merge that is
stored. -/
def mergeSync (file : FileUse String) (deliveredNow : List OutboxEntry)
    (acceptedPeers : List String) : Friends :=
  let merged := friends.updateOutbox file
    (Outbox.mergeSync deliveredNow acceptedPeers)
  if file = {} then
    { merged with
      markings := friends.markings ++
        Outbox.markings deliveredNow friends.outbox
      completed := friends.completed ++
        (Outbox.markAll deliveredNow friends.outbox).filter fun entry =>
          entry.kind == .accept && entry.delivered }
  else
    merged

/-- The row is deleted from the home node, as far as that works. -/
def deleteParked (deleted : Bool) (id : String) : Friends :=
  if deleted then
    { friends with parked := friends.parked.filter (·.id != id) }
  else
    friends

/-- One of the rows on the home node.  An acceptance adds its sender to the
contacts, and its row goes once that is stored. -/
def consumeRow (file : FileUse String) (deleted : Bool)
    (policy : FriendRequestPolicy) (row : FriendRequestEntry) :
    Friends × Option Acceptance :=
  match targetFromCode row.contactCode with
  | .error _ => (friends.deleteParked deleted row.id, none)
  | .ok (_, identity) =>
      if row.kind = "accept" then
        match Contacts.addContact file row.contactCode friends.contacts with
        | (.ok (), contacts) =>
            ({ friends with contacts }.deleteParked deleted row.id,
              some ⟨row, Contacts.toHex identity⟩)
        | (.error _, contacts) => ({ friends with contacts }, none)
      else if policy = .noOne then
        (friends.deleteParked deleted row.id, none)
      else
        (friends, none)

end Friends

inductive FriendCommand where
  | send (code : CodeText) (myDisplay : String)
  | resend (peerId myDisplay : String)
  | sync (myDisplay : String)
  | respond (id : String) (code : CodeText) (accept : Bool)
      (myDisplay : String)
  | cancel (peerId : String)

inductive FriendTask where
  | sending (code : CodeText) (myDisplay : String)
  | delivering (entry : OutboxEntry)
  | putting (entry : OutboxEntry)
  | looking (peerId myDisplay : String)
  | redelivering (entry : OutboxEntry)
  | puttingBack (entry : OutboxEntry)
  | syncing (myDisplay : String)
  | retrying (todo deliveredNow : List OutboxEntry) (myDisplay : String)
  | consuming (rows : List FriendRequestEntry) (policy : FriendRequestPolicy)
      (deliveredNow : List OutboxEntry) (accepted : List Acceptance)
  | merging (deliveredNow : List OutboxEntry) (accepted : List Acceptance)
  | responding (id : String) (code : CodeText) (accept : Bool)
      (myDisplay : String)
  | declining (id : String)
  | clearing (id : String) (code : CodeText) (myDisplay : String)
  | accepting (code : CodeText) (myDisplay : String)
  | queueing (entry : OutboxEntry)
  | cancelling (peerId : String)
  | done

/-- What the clock, the disk, the home node and the node of a peer answer to a
turn.  `parked` are the rows on the home node by then. -/
structure FriendInput where
  nowMs : Int := 0
  signedIn : Bool := true
  answer : DeliverAnswer := .failed
  parked : Option (List FriendRequestEntry) := some []
  policy : FriendRequestPolicy := .everyone
  contactsFile : FileUse String := {}
  deleted : Bool := true
  outboxFile : FileUse String := {}

namespace FriendTask

def enter : FriendCommand → FriendTask
  | .send code myDisplay => sending code myDisplay
  | .resend peerId myDisplay => looking peerId myDisplay
  | .sync myDisplay => syncing myDisplay
  | .respond id code accept myDisplay => responding id code accept myDisplay
  | .cancel peerId => cancelling peerId

def newEntry (kind : RequestKind) (code : CodeText) (target : ContactTarget)
    (identity : Bytes) (myDisplay : String) (nowMs : Int) : OutboxEntry where
  peerId := Contacts.toHex identity
  peerCode := code
  peerName := target.name
  kind := kind
  myDisplay := myDisplay
  sentAtMs := nowMs
  delivered := false

/-- A code without the user it is for cannot be sent to. -/
def send (code : CodeText) (myDisplay : String) (input : FriendInput) :
    FriendTask :=
  match targetFromCode code with
  | .error _ => done
  | .ok (target, identity) =>
      if target.hostUserId.isNone then done
      else delivering
        (newEntry .request code target identity myDisplay input.nowMs)

def look (outbox : List OutboxEntry) (peerId myDisplay : String) :
    FriendTask :=
  match outbox.find? fun entry => entry.key = (peerId, .request) with
  | some entry => redelivering (entry.withDisplay myDisplay)
  | none => done

def retry (friends : Friends) (entry : OutboxEntry)
    (todo deliveredNow : List OutboxEntry) (myDisplay : String)
    (input : FriendInput) : Friends × FriendTask :=
  if entry.settled then (friends, retrying todo deliveredNow myDisplay)
  else
    let attempt := friends.deliver input.answer (entry.withDisplay myDisplay)
    (attempt.1, retrying todo
      (if attempt.2.2 then
        deliveredNow ++ [{ attempt.2.1 with delivered := true }]
      else deliveredNow) myDisplay)

def list (friends : Friends) (deliveredNow : List OutboxEntry)
    (input : FriendInput) : Friends × FriendTask :=
  if input.signedIn then
    match input.parked with
    | some rows =>
        ({ friends with parked := rows },
          consuming rows input.policy deliveredNow [])
    | none => (friends, done)
  else
    (friends, done)

def consume (friends : Friends) (row : FriendRequestEntry)
    (rows : List FriendRequestEntry) (policy : FriendRequestPolicy)
    (deliveredNow : List OutboxEntry) (accepted : List Acceptance)
    (input : FriendInput) : Friends × FriendTask :=
  let consumed := friends.consumeRow input.contactsFile input.deleted policy row
  (consumed.1, consuming rows policy deliveredNow
    (accepted ++ consumed.2.toList))

def respond (friends : Friends) (id : String) (code : CodeText)
    (accept : Bool) (myDisplay : String) (input : FriendInput) :
    Friends × FriendTask :=
  if !input.signedIn then (friends, done)
  else if !accept then (friends, declining id)
  else
    match Contacts.addContact input.contactsFile code friends.contacts with
    | (.ok (), contacts) =>
        ({ friends with contacts }, clearing id code myDisplay)
    | (.error _, contacts) => ({ friends with contacts }, done)

def accept (friends : Friends) (code : CodeText) (myDisplay : String)
    (input : FriendInput) : Friends × FriendTask :=
  match targetFromCode code with
  | .error _ => (friends, done)
  | .ok (target, identity) =>
      let attempt := friends.deliver input.answer
        (newEntry .accept code target identity myDisplay input.nowMs)
      (attempt.1, queueing { attempt.2.1 with delivered := attempt.2.2 })

def advance (friends : Friends) (task : FriendTask) (input : FriendInput) :
    Friends × FriendTask :=
  match task with
  | sending code myDisplay => (friends, send code myDisplay input)
  | delivering entry =>
      let attempt := friends.deliver input.answer entry
      (attempt.1, putting { attempt.2.1 with delivered := attempt.2.2 })
  | putting entry =>
      (friends.updateOutbox input.outboxFile (Outbox.replaceRequest entry),
        done)
  | looking peerId myDisplay =>
      (friends,
        look (input.outboxFile.read [] friends.outbox) peerId myDisplay)
  | redelivering entry =>
      let attempt := friends.deliver input.answer entry
      (attempt.1, puttingBack { attempt.2.1 with
        delivered := attempt.2.2
        sentAtMs := input.nowMs })
  | puttingBack entry =>
      (friends.updateOutbox input.outboxFile (Outbox.replaceRequest entry),
        done)
  | syncing myDisplay =>
      (friends,
        retrying (input.outboxFile.read [] friends.outbox) [] myDisplay)
  | retrying (entry :: todo) deliveredNow myDisplay =>
      retry friends entry todo deliveredNow myDisplay input
  | retrying [] deliveredNow _ => list friends deliveredNow input
  | consuming (row :: rows) policy deliveredNow accepted =>
      consume friends row rows policy deliveredNow accepted input
  | consuming [] _ deliveredNow accepted =>
      (friends, merging deliveredNow accepted)
  | merging deliveredNow accepted =>
      (friends.mergeSync input.outboxFile deliveredNow
        (accepted.map (·.peerId)), done)
  | responding id code accept myDisplay =>
      respond friends id code accept myDisplay input
  | declining id => (friends.deleteParked input.deleted id, done)
  | clearing id code myDisplay =>
      (friends.deleteParked input.deleted id, accepting code myDisplay)
  | accepting code myDisplay => accept friends code myDisplay input
  | queueing entry =>
      (friends.updateOutbox input.outboxFile (Outbox.queueAcceptance entry),
        done)
  | cancelling peerId =>
      (friends.updateOutbox input.outboxFile (Outbox.withdraw peerId), done)
  | done => (friends, done)

end FriendTask

abbrev FriendPool := Tasks.Pool Friends FriendTask

abbrev FriendEvent := Tasks.Event FriendCommand FriendInput

def friendMachine :
    Tasks.Machine Friends FriendCommand FriendTask FriendInput where
  enter := FriendTask.enter
  advance := FriendTask.advance

def peerCode : CodeText :=
  .encoded {
    identityPubkey := List.replicate 32 7
    addresses := ["https://peer:50051"]
    hostUserId := some "peer" }

/-- The peer of `peerCode` after a move to another node. -/
def movedCode : CodeText :=
  .encoded {
    identityPubkey := List.replicate 32 7
    addresses := ["https://moved:50051"]
    hostUserId := some "moved" }

def peerKey : String :=
  Contacts.toHex (List.replicate 32 7)

def peerRequest : OutboxEntry where
  peerId := peerKey
  peerCode := peerCode
  peerName := "Unknown"
  kind := .request
  myDisplay := "Ann"
  sentAtMs := 0
  delivered := false

end Accord
