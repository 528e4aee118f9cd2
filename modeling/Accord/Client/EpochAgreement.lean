import Accord.Client.DirectMessages

/-! Where the devices of a new direct message end up.  Each is welcomed into
the epoch of its own addition, and nobody tells it of the additions after. -/

namespace Accord

open Epochs

/-! The server queues the Welcomes and nothing else. -/

namespace GroupSvc

open Server Effect

def welcomeRows (group : Uuid) (targets : List WelcomeTarget) :
    List InboxRow :=
  targets.filterMap fun target =>
    (target.deviceId.bind IdText.parse).map fun device =>
      ⟨device, .welcome, group, target.welcome⟩

private theorem welcomeRows_cons (group : Uuid) (target : WelcomeTarget)
    (rest : List WelcomeTarget) :
    welcomeRows group (target :: rest) =
      welcomeRows group [target] ++ welcomeRows group rest :=
  List.filterMap_append (l := [target])

private theorem enqueueInbox_inbox (device group : Uuid) (kind : InboxKind)
    (payload : Bytes) (store : Store) :
    (orStatus (Store.enqueueInbox device kind group payload)).Post store
      fun result after => result = .ok () →
        after.inbox = store.inbox ++ [⟨device, kind, group, payload⟩] := by
  refine post_mapError ?_
  refine (readOnly_check _ _).post_bind (fun _ _ => nofun) ?_
  intro _ _ _
  rfl

private theorem relayWelcome_inbox (bus : Bus) (group : Uuid)
    (target : WelcomeTarget) (server : Server) :
    (MlsRelaySvc.relayWelcome bus group target).Post server
      fun result after => result = .ok () →
        after.store.inbox =
          server.store.inbox ++ welcomeRows group [target] := by
  have parses : (MlsRelaySvc.requireDevice target).ReadOnly :=
    (readOnly_ofOption _ _).bind fun _ => readOnly_ofOption _ _
  refine parses.post_bind (fun _ _ => nofun) ?_
  intro device named
  have parsed : target.deviceId.bind IdText.parse = some device := by
    obtain ⟨text, after, present, rest⟩ := bind_ok named
    rw [ofOption_ok (congrArg Prod.fst present)]
    exact ofOption_ok rest
  have rows : welcomeRows group [target] =
      [⟨device, .welcome, group, target.welcome⟩] := by
    simp only [welcomeRows, List.filterMap_cons, parsed, Option.map_some,
      List.filterMap_nil]
  have queued : (onStore (orStatus (Store.enqueueInbox device .welcome group
      target.welcome))).Post server fun result after => result = .ok () →
        after.store.inbox =
          server.store.inbox ++ welcomeRows group [target] := by
    rw [rows]
    exact enqueueInbox_inbox device group .welcome target.welcome server.store
  refine post_bind queued (fun _ _ _ => nofun) fun _ after inbox => ?_
  have published : (publish bus
      (.welcome device group target.welcome)).ReadOnly := fun _ => rfl
  refine published.post_bind (fun _ _ => nofun) ?_
  intro _ _ _
  exact inbox rfl

private theorem forEach_relayWelcome_inbox (bus : Bus) (group : Uuid)
    (targets : List WelcomeTarget) (server : Server) :
    (forEach (MlsRelaySvc.relayWelcome bus group) targets).Post server
      fun result after => result = .ok () →
        after.store.inbox =
          server.store.inbox ++ welcomeRows group targets := by
  induction targets generalizing server with
  | nil =>
      intro _
      exact (List.append_nil _).symm
  | cons target rest induction =>
      refine post_bind (relayWelcome_inbox bus group target server)
        (fun _ _ _ => nofun) fun _ after inbox => ?_
      refine (induction after).imp fun result last more ended => ?_
      rw [more ended, inbox rfl, List.append_assoc, ← welcomeRows_cons]

private theorem keeps_inbox_adoptGroup (rows : List InboxRow)
    (creator groupId : Uuid) (name : String) (memberIds : List IdText) :
    (adoptGroup creator groupId name memberIds).Keeps
      fun store => store.inbox = rows := by
  refine keeps_adoptGroup creator groupId name memberIds ?_ ?_
  · exact (readOnly_check _ _).keeps.bind fun _ =>
      keeps_update fun _ same => same
  · intro userId role store same
    rw [Store.addMember_eq]
    split
    · split
      · exact same
      · exact same
    · exact same

private theorem createPrivateGroup_inbox {bus : Bus} {claims : Claims}
    {req : CreatePrivateGroupRequest} {server : Server} {group : Uuid}
    (named : req.groupId = some (.uuid group)) :
    (createPrivateGroup bus (some claims) req).Post server
      fun result after => (∃ id, result = .ok id) →
        after.store.inbox =
          server.store.inbox ++ welcomeRows group req.welcomes := by
  unfold createPrivateGroup
  rw [authenticate_bind, named]
  have parsed : onStore (requireGroupId (some (.uuid group))) server =
      (.ok group, server) := rfl
  refine post_bind_of_ok parsed ?_
  have adopted : (onStore (adoptGroup claims.sub group req.name
      req.memberIds)).Post server fun _ after =>
        after.store.inbox = server.store.inbox :=
    keeps_inbox_adoptGroup server.store.inbox claims.sub group req.name
      req.memberIds server.store rfl
  refine post_bind adopted (fun _ _ _ => nofun) fun _ after same => ?_
  refine post_bind (forEach_relayWelcome_inbox bus group req.welcomes after)
    (fun _ _ _ => nofun) fun _ last inbox _ => ?_
  rw [← same]
  exact inbox rfl

end GroupSvc

/-- A direct message with a peer who has the given devices: the client drafts
it, the server creates it, and every device processes what it is sent. -/
structure DmRun where
  codec : HandshakeCodec
  inboxCodec : InboxCodec
  bus : Bus
  claims : Claims
  creator : Engine Uuid
  engines : Uuid → Engine Uuid
  group : Uuid
  peerUserId : Uuid
  peerDisplay : String
  devices : List Uuid
  keyPackage : Uuid → Bytes
  dm : NewDm
  server : Server
  after : Server
  arrivals : Uuid → List ServerMessage
  peered : devices ≠ []
  distinct : devices.Nodup
  unused : ∀ row ∈ server.store.inbox, row.groupId ≠ group
  strangers : ∀ device ∈ devices, engines device group = none
  drafted : createDmWith codec group creator
    (some (devices.map fun device =>
      ⟨some (.uuid device), keyPackage device⟩)) peerUserId peerDisplay =
        .ok dm
  created : GroupSvc.createPrivateGroup bus (some claims) dm.request server =
    (.ok group, after)
  heard : ∀ device ∈ devices, Heard inboxCodec after.store.inbox
    (welcomeEvents group dm.request.welcomes) group device (arrivals device)

namespace DmRun

variable (run : DmRun)

def epochOf (device : Uuid) : Option ℕ :=
  (run.arrivals device).foldl (handleServerMessage run.codec)
    (run.engines device) run.group

def EpochsAgree : Prop :=
  ∀ device ∈ run.devices, run.epochOf device = run.dm.engine run.group

/-- The Welcome of the device that is added after `index` others. -/
def welcome (index : ℕ) : Bytes :=
  run.codec.encode (.welcome run.group (index + 1))

private theorem drafted_request :
    run.dm.engine run.group = some run.devices.length ∧
      run.dm.request.groupId = some (.uuid run.group) ∧
      run.dm.request.welcomes = run.devices.zipIdx.map fun entry =>
        ⟨some (.uuid entry.1), run.welcome entry.2⟩ := by
  have packages : (run.devices.map fun device =>
      (⟨some (.uuid device), run.keyPackage device⟩ : DevicePackage)) ≠ [] :=
    fun empty => run.peered (List.map_eq_nil_iff.mp empty)
  obtain ⟨dm, drafted, last, request⟩ := createDmWith_welcomes run.codec
    run.group run.creator packages run.peerUserId run.peerDisplay
  obtain rfl : dm = run.dm := by
    rw [run.drafted] at drafted
    cases drafted
    rfl
  refine ⟨by rw [last, List.length_map], by rw [request], ?_⟩
  rw [request, List.zipIdx_map, List.map_map]
  rfl

private theorem inbox_after :
    run.after.store.inbox = run.server.store.inbox ++
      run.devices.zipIdx.map fun entry =>
        ⟨entry.1, .welcome, run.group, run.welcome entry.2⟩ := by
  obtain ⟨_, named, welcomes⟩ := run.drafted_request
  have queued : (GroupSvc.createPrivateGroup run.bus (some run.claims)
      run.dm.request).Post run.server _ :=
    GroupSvc.createPrivateGroup_inbox named
  rw [Effect.Post, run.created] at queued
  rw [queued ⟨_, rfl⟩, welcomes, GroupSvc.welcomeRows, List.filterMap_map]
  congr 1
  exact congrFun List.filterMap_eq_map _

private theorem events_eq :
    welcomeEvents run.group run.dm.request.welcomes =
      run.devices.zipIdx.map fun entry =>
        .welcome entry.1 run.group (run.welcome entry.2) := by
  obtain ⟨_, _, welcomes⟩ := run.drafted_request
  rw [welcomes, welcomeEvents, List.filterMap_map]
  exact congrFun List.filterMap_eq_map _

private theorem index_unique {device : Uuid} {first second : ℕ}
    (one : run.devices[first]? = some device)
    (other : run.devices[second]? = some device) : first = second := by
  have inside := (List.getElem?_eq_some_iff.mp one).1
  exact (List.getElem?_inj inside run.distinct).mp (one.trans other.symm)

/-- Whatever arrives at a device is its own Welcome, and that does arrive. -/
private theorem arrivals_welcome {device : Uuid} {index : ℕ}
    (added : run.devices[index]? = some device) :
    (∀ message ∈ run.arrivals device,
      message = .welcomeNotification run.group (run.welcome index)) ∧
      .welcomeNotification run.group (run.welcome index) ∈
        run.arrivals device := by
  have heard := run.heard device (List.mem_of_getElem? added)
  constructor
  · intro message arrived
    cases heard.sent message arrived with
    | inl stored =>
        obtain ⟨row, member, toDevice, inGroup, read⟩ := stored
        rw [run.inbox_after] at member
        cases List.mem_append.mp member with
        | inl before => exact absurd inGroup (run.unused row before)
        | inr queued =>
            obtain ⟨⟨other, place⟩, listed, rfl⟩ := List.mem_map.mp queued
            obtain rfl : other = device := toDevice
            have found := List.mem_zipIdx_iff_getElem?.mp listed
            rw [run.index_unique added found]
            cases read
            rfl
    | inr live =>
        obtain ⟨event, published, meant, rfl⟩ := live
        rw [run.events_eq] at published
        obtain ⟨⟨other, place⟩, listed, rfl⟩ := List.mem_map.mp published
        obtain rfl : device = other := by
          simpa [BusEvent.targets] using meant
        have found := List.mem_zipIdx_iff_getElem?.mp listed
        rw [run.index_unique added found]
        rfl
  · refine heard.queued ⟨device, .welcome, run.group, run.welcome index⟩ ?_
      rfl rfl _ rfl
    rw [run.inbox_after]
    refine List.mem_append_right _ (List.mem_map.mpr ⟨(device, index), ?_,
      rfl⟩)
    exact List.mem_zipIdx_iff_getElem?.mpr added

private theorem foldl_known {engine : Engine Uuid} {epoch index : ℕ}
    (known : engine run.group = some epoch)
    {arrivals : List ServerMessage}
    (all : ∀ message ∈ arrivals,
      message = .welcomeNotification run.group (run.welcome index)) :
    arrivals.foldl (handleServerMessage run.codec) engine = engine := by
  induction arrivals with
  | nil => rfl
  | cons message rest induction =>
      have first := all message List.mem_cons_self
      have same : handleServerMessage run.codec engine message = engine := by
        simp only [first, handleServerMessage, welcome,
          run.codec.decode_encode]
        exact joinFromWelcome_known known _
      rw [List.foldl_cons, same]
      exact induction fun other member =>
        all other (List.mem_cons_of_mem _ member)

private theorem epochOf_eq {device : Uuid} {index : ℕ}
    (added : run.devices[index]? = some device) :
    run.epochOf device = some (index + 1) := by
  obtain ⟨all, arrived⟩ := run.arrivals_welcome added
  have stranger := run.strangers device (List.mem_of_getElem? added)
  unfold epochOf
  cases messages : run.arrivals device with
  | nil =>
      rw [messages] at arrived
      cases arrived
  | cons message rest =>
      rw [messages] at all
      have joined : handleServerMessage run.codec (run.engines device)
          message run.group = some (index + 1) := by
        simp only [all message List.mem_cons_self, handleServerMessage,
          welcome, run.codec.decode_encode]
        exact joinFromWelcome_new stranger (index + 1)
      rw [List.foldl_cons, run.foldl_known joined fun other member =>
        all other (List.mem_cons_of_mem _ member)]
      exact joined

/-- The creator is in the epoch of the last addition, so only a single device
agrees with it. -/
theorem epochsAgree_iff : run.EpochsAgree ↔ run.devices.length = 1 := by
  obtain ⟨last, _, _⟩ := run.drafted_request
  have filled : 0 < run.devices.length :=
    List.length_pos_iff.mpr run.peered
  constructor
  · intro agree
    have added : run.devices[0]? = some run.devices[0] :=
      List.getElem?_eq_getElem filled
    have first := agree run.devices[0] (List.getElem_mem filled)
    rw [run.epochOf_eq added, last] at first
    simpa using first.symm
  · intro single device member
    obtain ⟨index, inside, rfl⟩ := List.mem_iff_getElem.mp member
    rw [run.epochOf_eq (List.getElem?_eq_getElem inside), last, single]
    rw [single] at inside
    simpa using inside

end DmRun

/-- A plain form of the handshakes: a tag, the group and the epoch. -/
def HandshakeCodec.plain : HandshakeCodec :=
  let numbered : Format UInt8 (Uuid × ℕ) :=
    Json.uuid.pair (.token (Json.byteOf '"') Json.numeral Json.ofNumeral
      (fun _ => Json.not_mem_bytesOf
        (fun _ => Json.plain_of_mem_toDigits) (by decide))
      Json.ofNumeral_numeral)
  let tagged : Format UInt8 (Handshake Uuid) :=
    .convert
      (.either [1] numbered (.after [2] numbered)
        fun _ => Format.apart_append (by decide) _)
      (fun
        | .commit group epoch => .inl (group, epoch)
        | .welcome group epoch => .inr (group, epoch))
      (fun
        | .inl (group, epoch) => .commit group epoch
        | .inr (group, epoch) => .welcome group epoch)
      (by
        intro message
        cases message <;> rfl)
  ⟨tagged.write, tagged.decode, tagged.decode_write⟩

/-- The creator's device 21, and two devices of the peer. -/
def peerStore : Store where
  users := [
    ⟨1, "ann", "Ann", "", true, false, none, ""⟩,
    ⟨2, "bob", "Bob", "", false, false, none, ""⟩]
  devices := [⟨21, 1, "desk", none⟩, ⟨22, 2, "phone", none⟩,
    ⟨23, 2, "laptop", none⟩]

def welcomeTo (epoch : ℕ) : ServerMessage :=
  .welcomeNotification 7 (HandshakeCodec.plain.encode (.welcome 7 epoch))

def draft (devices : List Uuid) : NewDm :=
  match createDmWith .plain 7 (fun _ => none) (some (devices.map fun device =>
      ⟨some (.uuid device), []⟩)) 2 "Bob" with
  | .ok dm => dm
  | .error _ => ⟨fun _ => none, [], ⟨none, "", [], []⟩⟩

def created (devices : List Uuid) : Server :=
  (GroupSvc.createPrivateGroup (fun _ => .ok ()) (some ⟨1, 21⟩)
    (draft devices).request { store := peerStore }).2

private theorem heard_own {inbox : List InboxRow} {events : List BusEvent}
    {device : Uuid} {epoch : ℕ}
    (own : inbox.filter (·.deviceId == device) =
      [⟨device, .welcome, 7, HandshakeCodec.plain.encode
        (.welcome 7 epoch)⟩]) :
    Heard .json inbox events 7 device [welcomeTo epoch] := by
  have mine : ∀ row : InboxRow, row ∈ inbox ∧ row.deviceId = device ↔
      row = ⟨device, .welcome, 7, HandshakeCodec.plain.encode
        (.welcome 7 epoch)⟩ := by
    intro row
    have listed : row ∈ inbox.filter (·.deviceId == device) ↔
        row ∈ inbox ∧ (row.deviceId == device) = true := List.mem_filter
    rw [own, List.mem_singleton, beq_iff_eq] at listed
    exact listed.symm
  constructor
  · intro row member toDevice _ message read
    rw [(mine row).mp ⟨member, toDevice⟩] at read
    cases read
    exact List.mem_cons_self
  · intro message arrived
    cases List.mem_singleton.mp arrived
    obtain ⟨member, toDevice⟩ := (mine _).mpr rfl
    exact .inl ⟨_, member, toDevice, rfl, rfl⟩

/-- Ann starts a direct message with Bob, and each of his devices drains its
inbox once. -/
def annToBob (devices : List Uuid) (epochs : Uuid → ℕ)
    (peered : devices ≠ []) (distinct : devices.Nodup)
    (drafted : createDmWith .plain 7 (fun _ => none)
      (some (devices.map fun device => ⟨some (.uuid device), []⟩)) 2 "Bob" =
        .ok (draft devices))
    (accepted : (GroupSvc.createPrivateGroup (fun _ => .ok ())
      (some ⟨1, 21⟩) (draft devices).request { store := peerStore }).1 =
        .ok 7)
    (queued : ∀ device ∈ devices,
      (created devices).store.inbox.filter (·.deviceId == device) =
        [⟨device, .welcome, 7, HandshakeCodec.plain.encode
          (.welcome 7 (epochs device))⟩]) : DmRun where
  codec := .plain
  inboxCodec := .json
  bus := fun _ => .ok ()
  claims := ⟨1, 21⟩
  creator := fun _ => none
  engines := fun _ _ => none
  group := 7
  peerUserId := 2
  peerDisplay := "Bob"
  devices := devices
  keyPackage := fun _ => []
  dm := draft devices
  server := { store := peerStore }
  after := created devices
  arrivals := fun device => [welcomeTo (epochs device)]
  peered := peered
  distinct := distinct
  unused := by decide
  strangers := fun _ _ => rfl
  drafted := drafted
  created := Prod.ext accepted rfl
  heard := fun device member => heard_own (queued device member)

def oneDevice : DmRun :=
  annToBob [22] (fun _ => 1) (by decide) (by decide) rfl (by decide +kernel)
    (List.forall_mem_cons.mpr ⟨by decide +kernel, nofun⟩)

def twoDevices : DmRun :=
  annToBob [22, 23] (fun device => if device = 22 then 1 else 2) (by decide)
    (by decide) rfl (by decide +kernel)
    (List.forall_mem_cons.mpr ⟨by decide +kernel,
      List.forall_mem_cons.mpr ⟨by decide +kernel, nofun⟩⟩)

theorem oneDevice_agrees :
    oneDevice.devices.length = 1 ∧ oneDevice.EpochsAgree :=
  ⟨rfl, oneDevice.epochsAgree_iff.mpr rfl⟩

theorem twoDevices_disagree :
    twoDevices.epochOf 22 = some 1 ∧ twoDevices.dm.engine 7 = some 2 ∧
      ¬twoDevices.EpochsAgree := by
  have first : twoDevices.epochOf 22 = some 1 := by decide +kernel
  have creator : twoDevices.dm.engine 7 = some 2 := by decide +kernel
  refine ⟨first, creator, fun agree => ?_⟩
  have same := (agree 22 (by decide)).symm.trans first
  exact absurd (creator.symm.trans same) (by decide)

end Accord
