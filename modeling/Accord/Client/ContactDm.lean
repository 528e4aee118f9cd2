import Accord.Client.Contacts
import Accord.Client.DirectMessages
import Accord.Client.Engine
import Accord.Client.Sessions
import Accord.Types.Wire

/-! Opening a direct message with a saved contact on the contact's own host.  A
group that is there already is used again; otherwise one is made from the
KeyPackages that the host hands out. -/

namespace Accord.ContactDm

open AccordMls (OpenMls MlsError GroupStorage)

/-! Contact ids are hex public keys. -/

def hexDigit (char : Char) : Option ℕ :=
  if Uuid.isHexDigit char then some (Uuid.hexValue char.toLower) else none

/-- `u8::from_str_radix` of two characters; it takes a sign. -/
def hexPair (high low : Char) : Option UInt8 :=
  if high = '+' then (hexDigit low).map UInt8.ofNat
  else do
    let first ← hexDigit high
    let last ← hexDigit low
    return UInt8.ofNat (16 * first + last)

def hexPairs : List Char → Option Bytes
  | [] => some []
  | [_] => none
  | high :: low :: rest => do
      let byte ← hexPair high low
      let bytes ← hexPairs rest
      return byte :: bytes

def hexDecode (text : String) : Option Bytes := hexPairs text.toList

private theorem hexDigit_digitChar : ∀ digit < 16,
    hexDigit (Nat.digitChar digit) = some digit ∧
      Nat.digitChar digit ≠ '+' := by
  decide

private theorem hexPair_digits (byte : UInt8) :
    hexPair (Nat.digitChar (byte.toNat / 16))
      (Nat.digitChar (byte.toNat % 16)) = some byte := by
  have small : byte.toNat < 256 := byte.toNat_lt
  obtain ⟨high, signless⟩ := hexDigit_digitChar (byte.toNat / 16) (by omega)
  obtain ⟨low, _⟩ := hexDigit_digitChar (byte.toNat % 16) (by omega)
  unfold hexPair
  rw [if_neg signless, high, low]
  change some (UInt8.ofNat (16 * (byte.toNat / 16) + byte.toNat % 16)) = _
  rw [Nat.div_add_mod, UInt8.ofNat_toNat]

private theorem hexDecode_toHex (bytes : Bytes) :
    hexDecode (Contacts.toHex bytes) = some bytes := by
  unfold hexDecode Contacts.toHex AuthSvc.hexEncode
  rw [String.toList_ofList]
  induction bytes with
  | nil => rfl
  | cons byte rest induction =>
      rw [List.flatMap_cons, List.cons_append, List.cons_append,
        List.nil_append, hexPairs, hexPair_digits, induction]
      rfl

def uuidBytes (id : Uuid) : Bytes :=
  (List.range 16).map fun index =>
    UInt8.ofNat ((id.toNat >>> (8 * (15 - index))) % 256)

def mlsId (groupId : String) : Bytes :=
  (Uuid.parseStr groupId).elim [] uuidBytes

private theorem mlsId_text (id : Uuid) : mlsId id.text = uuidBytes id := by
  unfold mlsId
  rw [Uuid.parseStr_text]
  rfl

structure GroupSummary where
  groupId : Option String
  kind : Int

def GroupSummary.id (group : GroupSummary) : String := group.groupId.getD ""

structure GroupDto where
  id : String
  name : String
  kind : String := "private"
  channelKind : String := "text"
  memberCount : ℕ := 2
  categoryId : String := ""
  position : Int := 0

structure OpenedDm where
  serverId : String
  group : GroupDto

structure CreatePrivateGroupRequest where
  name : String
  memberIds : List String
  initialCommit : Bytes
  welcomes : List WelcomeTarget
  groupId : String

/-- The host of a contact, which answers as it likes. -/
structure ContactHost where
  connect : List String → Option String → Except String Unit
  login : AuthSvc.LoginRequest → Except String String
  uploadKeyPackages : List Bytes → Except String Unit
  startSession : Except String Unit
  listGroups : Option (List GroupSummary)
  fetchKeyPackages :
    List String → Except String (List (String × List DevicePackage))
  createPrivateGroup : CreatePrivateGroupRequest → Except String Unit

/-- The installation of the caller.  The streams may change the groups of the
engine whenever it is not locked: before the search, and before a group is
created. -/
structure DmClient (mls : OpenMls) where
  derive : Identity.Derive
  publicKey : IdentityKeyPair → ByteArr 32
  contacts : List StoredContact
  master : Except String IdentityKeyPair
  deviceName : String
  savedEngine : String → Option (AccordMls.MlsEngine mls)
  signerStored : Except String Unit
  keyPackages : Except MlsError (List Bytes)
  beforeSearch : GroupStorage mls → GroupStorage mls
  beforeCreate : GroupStorage mls → GroupStorage mls
  groupUuid : Uuid

section Open

variable {mls : OpenMls} (client : DmClient mls) (host : ContactHost)

/-- The public key of the contact identity, which the contacts know. -/
def DmClient.contactIdentity : Except String Bytes :=
  client.master.map fun master =>
    (client.publicKey (Identity.contactIdentity client.derive master)).toList

def requireHost (target : ContactTarget) : Except String String :=
  target.hostUserId.elim
    (.error ("this contact code has no host info - " ++
      "ask them for an updated code")) .ok

def guestLogin (target : ContactTarget) : Except String String := do
  let hostUserId ← requireHost target
  host.connect target.addresses target.cert
  let master ← client.master
  let identityPubkey ← client.contactIdentity
  let hostContext := target.cert.getD hostUserId
  host.login {
    username := "dm-" ++ Contacts.toHex (identityPubkey.take 8)
    password := Contacts.toHex (client.derive master
      ("accord:dm-guest-pw:" ++ hostContext)).toList
    deviceName := client.deviceName }

structure Ready (mls : OpenMls) where
  name : String
  hostUserId : String
  engine : AccordMls.MlsEngine mls

def loadEngine (guestUserId : String) :
    Except String (AccordMls.MlsEngine mls) :=
  match client.savedEngine guestUserId with
  | some cached => .ok cached
  | none => do
      let identity ← client.contactIdentity
      (AccordMls.MlsEngine.new client.signerStored identity).mapError
        MlsError.text

def prepare (contactId : String) : Except String (Ready mls) := do
  let target ← (Contacts.lookup client.contacts contactId).elim
    (.error "unknown contact") .ok
  let hostUserId ← requireHost target
  let guestUserId ← guestLogin client host target
  let loaded ← loadEngine client guestUserId
  let keyPackages ← client.keyPackages.mapError MlsError.text
  host.uploadKeyPackages keyPackages
  host.startSession
  return {
    name := target.name
    hostUserId
    engine := { loaded with storage := client.beforeSearch loaded.storage } }

def hasMember (engine : AccordMls.MlsEngine mls) (peerPub : Bytes)
    (group : GroupSummary) : Bool :=
  group.kind == 2 &&
    match engine.groupMemberIdentities (mlsId group.id) with
    | .ok members => members.contains peerPub
    | .error _ => false

def findExistingDm (engine : AccordMls.MlsEngine mls)
    (contactId peerName : String) : Option GroupDto := do
  let peerPub ← hexDecode contactId
  let groups ← host.listGroups
  let group ← groups.find? (hasMember engine peerPub)
  return { id := group.id, name := peerName }

structure Added where
  lastCommit : Bytes := []
  welcomes : List WelcomeTarget := []

def addDevice (groupId : Bytes) (added : Added) (package : DevicePackage) :
    Effect (AccordMls.MlsEngine mls) MlsError Added := do
  let (commit, welcome) ←
    AccordMls.MlsEngine.addMember groupId package.keyPackage
  return {
    lastCommit := commit
    welcomes := added.welcomes ++ [⟨package.deviceId, welcome⟩] }

def createDmWith (peerUserId peerDisplay : String) :
    Effect (AccordMls.MlsEngine mls) String GroupDto := do
  let fetched ← Effect.ofExcept (host.fetchKeyPackages [peerUserId])
  let bundle ← Effect.ofOption (fetched.lookup peerUserId)
    "peer has no published KeyPackages (have they logged in?)"
  Effect.check (fun _ => !bundle.isEmpty) "peer has no devices to add"
  Effect.update fun engine =>
    { engine with storage := client.beforeCreate engine.storage }
  let groupId := uuidBytes client.groupUuid
  (AccordMls.MlsEngine.createGroup groupId).mapError MlsError.text
  let added ← (bundle.foldlM (addDevice groupId) {}).mapError MlsError.text
  Effect.ofExcept (host.createPrivateGroup {
    name := peerDisplay
    memberIds := [peerUserId]
    initialCommit := added.lastCommit
    welcomes := added.welcomes
    groupId := client.groupUuid.text })
  return { id := client.groupUuid.text, name := peerDisplay }

def openGroup (contactId : String) (ready : Ready mls) :
    Effect (AccordMls.MlsEngine mls) String GroupDto := do
  let found ← Effect.read fun engine =>
    findExistingDm host engine contactId ready.name
  match found with
  | some existing => return existing
  | none => createDmWith client host ready.hostUserId ready.name

/-- The answer, and the engine of the session as the call leaves it. -/
def openDmWithContact (contactId : String) :
    Except String (OpenedDm × AccordMls.MlsEngine mls) := do
  let ready ← prepare client host contactId
  match openGroup client host contactId ready ready.engine with
  | (.ok group, engine) => return (⟨"dm:" ++ contactId, group⟩, engine)
  | (.error cause, _) => .error cause

/-! Whoever's KeyPackages the host hands out are added. -/

def leaves (mls : OpenMls) (packages : List DevicePackage) :
    Set AccordMls.Credential :=
  {credential | ∃ package ∈ packages,
    mls.leafOf package.keyPackage = some credential}

private theorem leaves_nil : leaves mls [] = ∅ := by
  ext credential
  simp [leaves]

private theorem leaves_cons {package : DevicePackage}
    {leaf : AccordMls.Credential}
    (decoded : mls.leafOf package.keyPackage = some leaf)
    (rest : List DevicePackage) :
    leaves mls (package :: rest) = insert leaf (leaves mls rest) := by
  ext credential
  have first : mls.leafOf package.keyPackage = some credential ↔
      credential = leaf := by
    rw [decoded, Option.some.injEq, eq_comm]
  simp only [leaves, Set.mem_ofPred_eq, List.mem_cons, exists_eq_or_imp,
    first, Set.mem_insert_iff]

variable {client host}

/-- By induction on the packages still to add, from any members. -/
theorem foldlM_addDevice {groupId : Bytes} {packages : List DevicePackage}
    {adding added : Added} {engine after : AccordMls.MlsEngine mls}
    {credentials : Set AccordMls.Credential}
    (before : engine.HasMembers groupId credentials)
    (ran : packages.foldlM (addDevice groupId) adding engine =
      (.ok added, after)) :
    after.HasMembers groupId (credentials ∪ leaves mls packages) := by
  induction packages generalizing adding engine credentials with
  | nil =>
      cases ran
      rw [leaves_nil, Set.union_empty]
      exact before
  | cons package rest induction =>
      rw [List.foldlM_cons] at ran
      obtain ⟨next, middle, first, ran⟩ := Effect.bind_eq_ok ran
      unfold addDevice at first
      obtain ⟨messages, last, sent, returned⟩ := Effect.bind_eq_ok first
      cases returned
      obtain ⟨leaf, decoded, members⟩ :=
        AccordMls.MlsEngine.addMember_ok before sent
      have grown := induction members ran
      rw [leaves_cons decoded, Set.union_insert, ← Set.insert_union]
      exact grown

private theorem createDmWith_ok {peerUserId peerDisplay : String}
    {engine after : AccordMls.MlsEngine mls} {group : GroupDto}
    (ran : createDmWith client host peerUserId peerDisplay engine =
      (.ok group, after)) :
    ∃ fetched bundle, host.fetchKeyPackages [peerUserId] = .ok fetched ∧
      fetched.lookup peerUserId = some bundle ∧
      after.HasMembers (mlsId group.id)
        ({engine.credential} ∪ leaves mls bundle) := by
  unfold createDmWith at ran
  obtain ⟨fetched, answered, ran⟩ := Effect.ofExcept_bind_eq_ok ran
  obtain ⟨bundle, found, ran⟩ := Effect.ofOption_bind_eq_ok ran
  obtain ⟨-, ran⟩ := Effect.check_bind_eq_ok ran
  rw [Effect.update_bind] at ran
  obtain ⟨_, created, creating, ran⟩ := Effect.bind_eq_ok ran
  have alone := AccordMls.MlsEngine.createGroup_ok
    (Effect.mapError_eq_ok creating)
  obtain ⟨added, grown, adding, ran⟩ := Effect.bind_eq_ok ran
  have members := foldlM_addDevice alone (Effect.mapError_eq_ok adding)
  obtain ⟨_, -, ran⟩ := Effect.ofExcept_bind_eq_ok ran
  cases ran
  rw [mlsId_text]
  exact ⟨fetched, bundle, answered, found, members⟩

def IsBetween (engine : AccordMls.MlsEngine mls) (groupId own key : Bytes) :
    Prop :=
  ∃ identities, engine.groupMemberIdentities groupId = .ok identities ∧
    ∀ identity, identity ∈ identities ↔ identity = own ∨ identity = key

/-- The first private group of the host that the key is in. -/
def Ready.existing (host : ContactHost) (ready : Ready mls) (key : Bytes) :
    Option GroupSummary :=
  host.listGroups.bind (·.find? (hasMember ready.engine key))

/-- There is nobody else in the group that is used again, or in the engine and
the packages that a new one is made from. -/
structure Ready.Faithful (host : ContactHost) (ready : Ready mls)
    (own key : Bytes) : Prop where
  reused : ∀ group identities, ready.existing host key = some group →
    ready.engine.groupMemberIdentities (mlsId group.id) = .ok identities →
      own ∈ identities ∧
        ∀ identity ∈ identities, identity = own ∨ identity = key
  created : ready.existing host key = none →
    ∀ fetched bundle, host.fetchKeyPackages [ready.hostUserId] = .ok fetched →
      fetched.lookup ready.hostUserId = some bundle →
        ∀ identity, (identity = ready.engine.identity ∨
            .basic identity ∈ leaves mls bundle) ↔
          identity = own ∨ identity = key

private theorem findExistingDm_toHex (ready : Ready mls) (key : Bytes) :
    findExistingDm host ready.engine (Contacts.toHex key) ready.name =
      (ready.existing host key).map fun group =>
        { id := group.id, name := ready.name } := by
  unfold findExistingDm Ready.existing
  rw [hexDecode_toHex]
  cases host.listGroups with
  | none => rfl
  | some groups =>
      change (groups.find? (hasMember ready.engine key)).bind _ = _
      rw [Option.bind_some]
      cases groups.find? (hasMember ready.engine key) <;> rfl

private theorem hasMember_identities {engine : AccordMls.MlsEngine mls}
    {key : Bytes}
    {group : GroupSummary} (shared : hasMember engine key group = true) :
    ∃ identities,
      engine.groupMemberIdentities (mlsId group.id) = .ok identities ∧
        key ∈ identities := by
  unfold hasMember at shared
  cases loaded : engine.groupMemberIdentities (mlsId group.id) with
  | error cause =>
      rw [loaded] at shared
      simp at shared
  | ok identities =>
      rw [loaded] at shared
      simp only [Bool.and_eq_true, List.contains_iff_mem] at shared
      exact ⟨identities, rfl, shared.2⟩

private theorem openGroup_ok {key : Bytes} {ready : Ready mls}
    {group : GroupDto}
    {after : AccordMls.MlsEngine mls}
    (ran : openGroup client host (Contacts.toHex key) ready ready.engine =
      (.ok group, after)) :
    (∃ existing, ready.existing host key = some existing ∧
      group.id = existing.id ∧ after = ready.engine) ∨
    ready.existing host key = none ∧
      createDmWith client host ready.hostUserId ready.name ready.engine =
        (.ok group, after) := by
  have search : (Effect.read fun engine =>
      findExistingDm host engine (Contacts.toHex key) ready.name :
        Effect (AccordMls.MlsEngine mls) String _) ready.engine =
      (.ok ((ready.existing host key).map fun group =>
        { id := group.id, name := ready.name }), ready.engine) :=
    Effect.read_of_eq (findExistingDm_toHex ready key)
  unfold openGroup at ran
  rw [Effect.bind_of_ok search] at ran
  cases existing : ready.existing host key with
  | none =>
      rw [existing] at ran
      exact .inr ⟨rfl, ran⟩
  | some found =>
      rw [existing] at ran
      cases ran
      exact .inl ⟨found, rfl, rfl, rfl⟩

private theorem openDmWithContact_ok {contactId : String} {ready : Ready mls}
    {dm : OpenedDm} {after : AccordMls.MlsEngine mls}
    (prepared : prepare client host contactId = .ok ready)
    (opened : openDmWithContact client host contactId = .ok (dm, after)) :
    openGroup client host contactId ready ready.engine =
      (.ok dm.group, after) := by
  unfold openDmWithContact at opened
  rw [prepared] at opened
  change (match openGroup client host contactId ready ready.engine with
    | (.ok group, engine) => _
    | (.error cause, _) => _) = _ at opened
  split at opened
  · rename_i group engine ran
    cases opened
    exact ran
  · cases opened

/-- The two branches of the search, and what each of them leaves open. -/
private theorem isBetween_iff {key own : Bytes} {ready : Ready mls}
    {dm : OpenedDm} {after : AccordMls.MlsEngine mls}
    (prepared : prepare client host (Contacts.toHex key) = .ok ready)
    (opened : openDmWithContact client host (Contacts.toHex key) =
      .ok (dm, after)) :
    IsBetween after (mlsId dm.group.id) own key ↔
      ready.Faithful host own key := by
  obtain ⟨existing, first, same, rfl⟩ | ⟨absent, created⟩ :=
    openGroup_ok (openDmWithContact_ok prepared opened)
  · have shared : hasMember ready.engine key existing = true := by
      obtain ⟨groups, _, found⟩ := Option.bind_eq_some_iff.mp first
      exact List.find?_some found
    obtain ⟨identities, known, member⟩ := hasMember_identities shared
    rw [same]
    constructor
    · rintro ⟨_, again, exactly⟩
      cases known.symm.trans again
      refine ⟨?_, fun absent => absurd (first.symm.trans absent) (by simp)⟩
      intro group _ chosen found
      cases first.symm.trans chosen
      cases known.symm.trans found
      exact ⟨(exactly own).mpr (.inl rfl),
        fun identity listed => (exactly identity).mp listed⟩
    · intro faithful
      obtain ⟨ours, others⟩ := faithful.reused existing identities first known
      refine ⟨identities, known, fun identity => ⟨others identity, ?_⟩⟩
      rintro (rfl | rfl)
      · exact ours
      · exact member
  · obtain ⟨fetched, bundle, answered, found, members⟩ :=
      createDmWith_ok created
    obtain ⟨identities, known, exactly⟩ := members.mem_identities
    have listed : ∀ identity, identity ∈ identities ↔
        identity = ready.engine.identity ∨
          .basic identity ∈ leaves mls bundle := by
      intro identity
      rw [exactly, Set.mem_union, Set.mem_singleton_iff,
        AccordMls.MlsEngine.credential, AccordMls.Credential.basic.injEq]
    constructor
    · rintro ⟨_, again, both⟩
      cases known.symm.trans again
      refine ⟨fun _ _ chosen => absurd (absent.symm.trans chosen) (by simp),
        ?_⟩
      intro _ _ _ asked offered identity
      cases answered.symm.trans asked
      cases found.symm.trans offered
      rw [← listed, both]
    · intro faithful
      refine ⟨identities, known, fun identity => ?_⟩
      rw [listed]
      exact faithful.created absent fetched bundle answered found identity

private theorem openDmWithContact_prepared {contactId : String} {dm : OpenedDm}
    {after : AccordMls.MlsEngine mls}
    (opened : openDmWithContact client host contactId = .ok (dm, after)) :
    ∃ ready, prepare client host contactId = .ok ready := by
  unfold openDmWithContact at opened
  cases prepared : prepare client host contactId with
  | error cause =>
      rw [prepared] at opened
      cases opened
  | ok ready => exact ⟨ready, rfl⟩

/-- The group is between the caller, under the contact identity, and the
contact. -/
def DmClient.IsDmWith (client : DmClient mls)
    (engine : AccordMls.MlsEngine mls) (groupId key : Bytes) : Prop :=
  ∃ own, client.contactIdentity = .ok own ∧ IsBetween engine groupId own key

def DmClient.Faithful (client : DmClient mls) (host : ContactHost)
    (key : Bytes) : Prop :=
  ∃ own ready, client.contactIdentity = .ok own ∧
    prepare client host (Contacts.toHex key) = .ok ready ∧
    ready.Faithful host own key

theorem DmClient.opened_iff {key : Bytes} {dm : OpenedDm}
    {after : AccordMls.MlsEngine mls}
    (opened : openDmWithContact client host (Contacts.toHex key) =
      .ok (dm, after)) :
    client.IsDmWith after (mlsId dm.group.id) key ↔
      client.Faithful host key := by
  obtain ⟨ready, prepared⟩ := openDmWithContact_prepared opened
  constructor
  · rintro ⟨own, ours, between⟩
    exact ⟨own, ready, ours, prepared,
      (isBetween_iff prepared opened).mp between⟩
  · rintro ⟨own, again, ours, same, faithful⟩
    cases prepared.symm.trans same
    exact ⟨own, ours, (isBetween_iff prepared opened).mpr faithful⟩

end Open

/-! A host that hands out one KeyPackage for whoever it is asked for. -/

def plainMls : OpenMls where
  Group := List AccordMls.Credential
  KeyPackageIn := Bytes
  KeyPackage := Bytes
  newWithGroupId _ credential := .ok [credential]
  tlsDeserializeExact := .ok
  validate := .ok
  addMembers group package := .ok ⟨group ++ [.basic package], .ok [1], .ok [2]⟩
  mergePendingCommit := .ok
  members group := group
  hasProposals _ := false
  leaf := .basic
  new_group made := by
    cases made
    exact ⟨rfl, rfl⟩
  merged_group _ added merged := by
    cases added
    cases merged
    refine ⟨rfl, fun credential => ?_⟩
    rw [List.mem_append, List.mem_singleton]

def peer : StoredContact where
  pubkey := List.replicate 32 2
  name := "Bob"
  addresses := ["10.0.0.2:7443"]
  cert := none
  hostUserId := some "bob"
  verified := false

def caller : DmClient plainMls where
  derive master _ := master
  publicKey secret := secret
  contacts := [peer]
  master := .ok (.replicate 32 1)
  deviceName := "Desktop"
  savedEngine _ := none
  signerStored := .ok ()
  keyPackages := .ok []
  beforeSearch storage := storage
  beforeCreate storage := storage
  groupUuid := 7

def offering (package : Bytes) : ContactHost where
  connect _ _ := .ok ()
  login _ := .ok "guest"
  uploadKeyPackages _ := .ok ()
  startSession := .ok ()
  listGroups := some []
  fetchKeyPackages users :=
    .ok (users.map fun user => (user, [⟨none, package⟩]))
  createPrivateGroup _ := .ok ()

theorem own_package_opens : ∃ dm after,
    openDmWithContact caller (offering peer.pubkey)
      (Contacts.toHex peer.pubkey) = .ok (dm, after) ∧
    caller.IsDmWith after (mlsId dm.group.id) peer.pubkey := by
  have faithful : caller.Faithful (offering peer.pubkey) peer.pubkey := by
    refine ⟨_, _, rfl, rfl, ⟨?_, ?_⟩⟩
    · rintro _ _ ⟨⟩
    · rintro _ _ _ ⟨⟩ ⟨⟩ identity
      have decoded : plainMls.leafOf peer.pubkey =
          some (.basic peer.pubkey) := rfl
      rw [leaves_cons decoded, leaves_nil, Set.mem_insert_iff,
        Set.mem_empty_iff_false, or_false,
        AccordMls.Credential.basic.injEq]
  exact ⟨_, _, rfl, (DmClient.opened_iff rfl).mpr faithful⟩

theorem strange_package_opens : ∃ dm after,
    openDmWithContact caller (offering (List.replicate 32 9))
      (Contacts.toHex peer.pubkey) = .ok (dm, after) ∧
    ¬ caller.IsDmWith after (mlsId dm.group.id) peer.pubkey := by
  refine ⟨_, _, rfl, ?_⟩
  rintro ⟨own, _, identities, known, exactly⟩
  have listed : identities = [List.replicate 32 1, List.replicate 32 9] := by
    cases known
    rfl
  have member := (exactly peer.pubkey).mpr (.inr rfl)
  rw [listed] at member
  exact absurd member (by decide)

end Accord.ContactDm
