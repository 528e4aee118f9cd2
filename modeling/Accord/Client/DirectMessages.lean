import Accord.Library.Epochs
import Accord.Server.Groups.Service
import Accord.Server.Messaging.Mailbox

/-! Starting a direct message: the devices of the peer are added to a new
group one by one, and their Welcomes go to the server with the request that
creates the group there. -/

namespace Accord

open Epochs

structure HandshakeCodec where
  encode : Handshake Uuid → Bytes
  decode : Bytes → Option (Handshake Uuid)
  decode_encode : ∀ message, decode (encode message) = some message

structure DevicePackage where
  deviceId : Option IdText
  keyPackage : Bytes

structure Adding where
  engine : Engine Uuid
  lastCommit : Bytes := []
  welcomes : List WelcomeTarget := []

/-- The engine of the creator and what is sent to the server.  The server
reads the request and not the Commit. -/
structure NewDm where
  engine : Engine Uuid
  initialCommit : Bytes
  request : GroupSvc.CreatePrivateGroupRequest

section Create

variable (codec : HandshakeCodec) (group : Uuid)

def addDevice (adding : Adding) (package : DevicePackage) :
    Except String Adding :=
  match addMember adding.engine group with
  | some (commit, welcome, engine) => .ok {
      engine
      lastCommit := codec.encode commit
      welcomes := adding.welcomes ++
        [⟨package.deviceId, codec.encode welcome⟩] }
  | none => .error "unknown group"

/-- `bundle` are the KeyPackages of the peer that the server hands out, and
`group` the fresh id. -/
def createDmWith (engine : Engine Uuid) (bundle : Option (List DevicePackage))
    (peerUserId : Uuid) (peerDisplay : String) : Except String NewDm := do
  let packages ← bundle.elim
    (.error "peer has no published KeyPackages (have they logged in?)") .ok
  if packages.isEmpty then
    .error "peer has no devices to add"
  else do
    let added ← packages.foldlM (addDevice codec group)
      { engine := createGroup engine group }
    return {
      engine := added.engine
      initialCommit := added.lastCommit
      request := {
        groupId := some (.uuid group)
        name := peerDisplay
        memberIds := [.uuid peerUserId]
        welcomes := added.welcomes } }

end Create

/-- What a client does with a notification, as far as its engine goes. -/
def handleServerMessage (codec : HandshakeCodec) (engine : Engine Uuid) :
    ServerMessage → Engine Uuid
  | .welcomeNotification _ welcome =>
      match codec.decode welcome with
      | some message => joinFromWelcome engine message
      | none => engine
  | .commitNotification groupId commit _ =>
      match codec.decode commit with
      | some message => processIncoming engine groupId message
      | none => engine
  | .privateMessage _ | .publicMessage _ => engine

def welcomeEvents (group : Uuid) (targets : List WelcomeTarget) :
    List BusEvent :=
  targets.filterMap fun target =>
    (target.deviceId.bind IdText.parse).map fun device =>
      .welcome device group target.welcome

/-- Everything the server has for a device has arrived, in any order: what is
queued in its inbox, and whatever of the published events it was online for.
-/
structure Heard (codec : InboxCodec) (inbox : List InboxRow)
    (events : List BusEvent) (group device : Uuid)
    (arrivals : List ServerMessage) : Prop where
  queued : ∀ row ∈ inbox, row.deviceId = device → row.groupId = group →
    ∀ message, MessagingSvc.inboxMessage codec.decode row = some message →
      message ∈ arrivals
  sent : ∀ message ∈ arrivals,
    (∃ row ∈ inbox, row.deviceId = device ∧ row.groupId = group ∧
      MessagingSvc.inboxMessage codec.decode row = some message) ∨
    ∃ event ∈ events, event.targets device [] = true ∧
      event.message = message

/-! One Welcome for each device, at the epoch its own addition led to. -/

section Welcomes

variable (codec : HandshakeCodec) (group : Uuid)

def welcomeFor (entry : DevicePackage × ℕ) : WelcomeTarget :=
  ⟨entry.1.deviceId, codec.encode (.welcome group (entry.2 + 1))⟩

/-- By induction on the devices still to add, from any epoch. -/
theorem foldlM_addDevice (packages : List DevicePackage) {adding : Adding}
    {epoch : ℕ} (member : adding.engine group = some epoch) :
    ∃ added, packages.foldlM (addDevice codec group) adding = .ok added ∧
      added.engine group = some (epoch + packages.length) ∧
      added.welcomes = adding.welcomes ++
        (packages.zipIdx epoch).map (welcomeFor codec group) := by
  induction packages generalizing adding epoch with
  | nil => exact ⟨adding, rfl, member, by simp⟩
  | cons package rest induction =>
      let next : Adding := {
        engine := Function.update adding.engine group (some (epoch + 1))
        lastCommit := codec.encode (.commit group epoch)
        welcomes := adding.welcomes ++
          [⟨package.deviceId, codec.encode (.welcome group (epoch + 1))⟩] }
      have first : addDevice codec group adding package = .ok next := by
        rw [addDevice, addMember_of_some member]
      have moved : next.engine group = some (epoch + 1) :=
        Function.update_self _ _ _
      obtain ⟨added, ran, last, welcomes⟩ := induction moved
      refine ⟨added, ?_, ?_, ?_⟩
      · rw [List.foldlM_cons, first]
        exact ran
      · rw [last, List.length_cons, Nat.add_right_comm, Nat.add_assoc]
      · rw [welcomes, List.zipIdx_cons, List.map_cons, List.append_assoc]
        rfl

theorem createDmWith_welcomes (engine : Engine Uuid)
    {packages : List DevicePackage} (devices : packages ≠ [])
    (peerUserId : Uuid) (peerDisplay : String) :
    ∃ dm, createDmWith codec group engine (some packages) peerUserId
        peerDisplay = .ok dm ∧
      dm.engine group = some packages.length ∧
      dm.request = ⟨some (.uuid group), peerDisplay, [.uuid peerUserId],
        packages.zipIdx.map (welcomeFor codec group)⟩ := by
  have created : ({ engine := createGroup engine group } :
      Adding).engine group = some 0 := Function.update_self _ _ _
  obtain ⟨added, ran, last, welcomes⟩ :=
    foldlM_addDevice codec group packages created
  rw [Nat.zero_add] at last
  rw [List.nil_append] at welcomes
  refine ⟨⟨added.engine, added.lastCommit, ⟨some (.uuid group), peerDisplay,
    [.uuid peerUserId], added.welcomes⟩⟩, ?_, last, by rw [welcomes]⟩
  unfold createDmWith
  have filled : packages.isEmpty = false := by simpa using devices
  simp only [Option.elim, filled, Bool.false_eq_true, if_false, ran, bind,
    Except.bind, pure, Except.pure]

end Welcomes

end Accord
