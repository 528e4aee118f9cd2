import Accord.Library.Effect
import Accord.Types.Text
import Mathlib.Data.Set.Insert
import Mathlib.Logic.Function.Basic

/-! The engine of a device: its groups over the MLS library, and who their
members are. -/

namespace Accord.AccordMls

/-- What is no basic credential has no identity for the engine. -/
inductive Credential where
  | basic (identity : Bytes)
  | other (credentialType : ℕ) (content : Bytes)
  deriving DecidableEq

def Credential.identity? : Credential → Option Bytes
  | .basic identity => some identity
  | .other .. => none

/-- What `add_members` returns, with the group whose Commit is pending. -/
structure Addition (Group : Type) where
  pending : Group
  commit : Except String Bytes
  welcome : Except String Bytes

/-- OpenMLS.  A new group has its creator alone.  A Commit covers the pending
proposals of the group, too; without any, a merged addition has put the leaf of
the KeyPackage there. -/
structure OpenMls where
  Group : Type
  KeyPackageIn : Type
  KeyPackage : Type
  newWithGroupId : Bytes → Credential → Except String Group
  tlsDeserializeExact : Bytes → Except String KeyPackageIn
  validate : KeyPackageIn → Except String KeyPackage
  addMembers : Group → KeyPackage → Except String (Addition Group)
  mergePendingCommit : Group → Except String Group
  members : Group → List Credential
  hasProposals : Group → Bool
  leaf : KeyPackage → Credential
  new_group : ∀ {groupId credential group},
    newWithGroupId groupId credential = .ok group →
      hasProposals group = false ∧ members group = [credential]
  merged_group : ∀ {group package addition merged},
    hasProposals group = false →
      addMembers group package = .ok addition →
        mergePendingCommit addition.pending = .ok merged →
          hasProposals merged = false ∧ ∀ credential,
            credential ∈ members merged ↔
              credential ∈ members group ∨ credential = leaf package

def OpenMls.leafOf (mls : OpenMls) (keyPackage : Bytes) :
    Option Credential :=
  match (mls.tlsDeserializeExact keyPackage).bind mls.validate with
  | .ok package => some (mls.leaf package)
  | .error _ => none

inductive MlsError where
  | protocol (cause : String)
  | codec (cause : String)
  | unknownGroup
  | state (cause : String)

def MlsError.text : MlsError → String
  | .protocol cause => "mls protocol error: " ++ cause
  | .codec cause => "mls codec error: " ++ cause
  | .unknownGroup => "unknown group"
  | .state cause =>
      "engine state (de)serialization failed: " ++ cause

/-- What the storage of an engine has under the id of a group, if it can be
read. -/
abbrev GroupStorage (mls : OpenMls) :=
  Bytes → Except String (Option mls.Group)

structure MlsEngine (mls : OpenMls) where
  identity : Bytes
  storage : GroupStorage mls

namespace MlsEngine

variable {mls : OpenMls}

def credential (engine : MlsEngine mls) : Credential :=
  .basic engine.identity

def put (groupId : Bytes) (group : mls.Group) (engine : MlsEngine mls) :
    MlsEngine mls :=
  { engine with
    storage := Function.update engine.storage groupId (.ok (some group)) }

def new (stored : Except String Unit) (signing : Bytes) :
    Except MlsError (MlsEngine mls) :=
  match stored with
  | .ok () => .ok { identity := signing, storage := fun _ => .ok none }
  | .error cause => .error (.state ("store signer: " ++ cause))

def loadGroup (groupId : Bytes) (engine : MlsEngine mls) :
    Except MlsError mls.Group :=
  match engine.storage groupId with
  | .ok (some group) => .ok group
  | .ok none => .error .unknownGroup
  | .error cause => .error (.state cause)

def createGroup (groupId : Bytes) : Effect (MlsEngine mls) MlsError Unit :=
  fun engine =>
    match mls.newWithGroupId groupId engine.credential with
    | .ok group => (.ok (), engine.put groupId group)
    | .error cause => (.error (.protocol ("create group: " ++ cause)), engine)

/-- An outcome of the library, its failure under the name of the step. -/
def step {Value : Type} (name : String) (outcome : Except String Value) :
    Effect (MlsEngine mls) MlsError Value :=
  Effect.ofExcept (outcome.mapError fun cause => .protocol (name ++ cause))

def coded {Value : Type} (outcome : Except String Value) :
    Effect (MlsEngine mls) MlsError Value :=
  Effect.ofExcept (outcome.mapError .codec)

def addMember (groupId keyPackage : Bytes) :
    Effect (MlsEngine mls) MlsError (Bytes × Bytes) := do
  let loaded ← Effect.read (loadGroup groupId)
  let group ← Effect.ofExcept loaded
  let kpIn ← coded (mls.tlsDeserializeExact keyPackage)
  let kp ← step "invalid key package: " (mls.validate kpIn)
  let addition ← step "add member: " (mls.addMembers group kp)
  Effect.update (put groupId addition.pending)
  let merged ← step "merge commit: " (mls.mergePendingCommit addition.pending)
  Effect.update (put groupId merged)
  let commit ← coded addition.commit
  let welcome ← coded addition.welcome
  return (commit, welcome)

/-- The members whose credential is a basic one, this device among them. -/
def groupMemberIdentities (groupId : Bytes) (engine : MlsEngine mls) :
    Except MlsError (List Bytes) :=
  (engine.loadGroup groupId).map fun group =>
    (mls.members group).filterMap Credential.identity?

/-- The group is there, with these members and no proposals. -/
def HasMembers (engine : MlsEngine mls) (groupId : Bytes)
    (credentials : Set Credential) : Prop :=
  ∃ group, engine.loadGroup groupId = .ok group ∧
    mls.hasProposals group = false ∧
    ∀ credential, credential ∈ mls.members group ↔ credential ∈ credentials

private theorem loadGroup_put (groupId : Bytes) (group : mls.Group)
    (engine : MlsEngine mls) :
    (engine.put groupId group).loadGroup groupId = .ok group := by
  unfold loadGroup put
  simp only [Function.update_self]

private theorem hasMembers_put {group : mls.Group}
    {credentials : Set Credential}
    (quiet : mls.hasProposals group = false)
    (members : ∀ credential, credential ∈ mls.members group ↔
      credential ∈ credentials)
    (groupId : Bytes) (engine : MlsEngine mls) :
    (engine.put groupId group).HasMembers groupId credentials :=
  ⟨group, loadGroup_put groupId group engine, quiet, members⟩

theorem createGroup_ok {groupId : Bytes} {engine after : MlsEngine mls}
    {result : Unit}
    (ran : createGroup groupId engine = (.ok result, after)) :
    after.HasMembers groupId {engine.credential} := by
  unfold createGroup at ran
  cases made : mls.newWithGroupId groupId engine.credential with
  | error cause =>
      rw [made] at ran
      cases ran
  | ok group =>
      rw [made] at ran
      cases ran
      obtain ⟨quiet, alone⟩ := mls.new_group made
      refine hasMembers_put quiet ?_ groupId engine
      intro credential
      rw [alone, List.mem_singleton, Set.mem_singleton_iff]

theorem mapError_ok {Value : Type} {outcome : Except String Value}
    {convert : String → MlsError} {value : Value}
    (mapped : outcome.mapError convert = .ok value) :
    outcome = .ok value := by
  cases outcome with
  | ok returned =>
      cases mapped
      rfl
  | error cause => cases mapped

section Steps

variable {Value Next : Type} {outcome : Except String Value}
  {rest : Value → Effect (MlsEngine mls) MlsError Next}
  {engine final : MlsEngine mls} {result : Next}

private theorem step_bind_ok {name : String}
    (ran : (step name outcome >>= rest) engine = (.ok result, final)) :
    ∃ value, outcome = .ok value ∧
      rest value engine = (.ok result, final) := by
  obtain ⟨value, mapped, last⟩ := Effect.ofExcept_bind_eq_ok ran
  exact ⟨value, mapError_ok mapped, last⟩

private theorem coded_bind_ok
    (ran : (coded outcome >>= rest) engine = (.ok result, final)) :
    ∃ value, outcome = .ok value ∧
      rest value engine = (.ok result, final) := by
  obtain ⟨value, mapped, last⟩ := Effect.ofExcept_bind_eq_ok ran
  exact ⟨value, mapError_ok mapped, last⟩

end Steps

/-- An addition that goes through adds the leaf of the KeyPackage, whoever's
it is. -/
theorem addMember_ok {groupId keyPackage : Bytes}
    {engine after : MlsEngine mls} {messages : Bytes × Bytes}
    {credentials : Set Credential}
    (before : engine.HasMembers groupId credentials)
    (ran : addMember groupId keyPackage engine = (.ok messages, after)) :
    ∃ leaf, mls.leafOf keyPackage = some leaf ∧
      after.HasMembers groupId (insert leaf credentials) := by
  obtain ⟨group, loaded, quiet, members⟩ := before
  unfold addMember at ran
  rw [Effect.bind_of_ok (Effect.read_of_eq loaded)] at ran
  obtain ⟨_, same, ran⟩ := Effect.ofExcept_bind_eq_ok ran
  cases same
  obtain ⟨kpIn, parsed, ran⟩ := coded_bind_ok ran
  obtain ⟨kp, valid, ran⟩ := step_bind_ok ran
  obtain ⟨addition, added, ran⟩ := step_bind_ok ran
  rw [Effect.update_bind] at ran
  obtain ⟨merged, merging, ran⟩ := step_bind_ok ran
  rw [Effect.update_bind] at ran
  obtain ⟨commit, -, ran⟩ := coded_bind_ok ran
  obtain ⟨welcome, -, ran⟩ := coded_bind_ok ran
  cases ran
  have leaf : mls.leafOf keyPackage = some (mls.leaf kp) := by
    unfold OpenMls.leafOf
    rw [parsed]
    change (match mls.validate kpIn with
      | .ok package => some (mls.leaf package)
      | .error _ => none) = _
    rw [valid]
  obtain ⟨still, joined⟩ := mls.merged_group quiet added merging
  refine ⟨mls.leaf kp, leaf, hasMembers_put still ?_ groupId _⟩
  intro credential
  rw [joined, members, Set.mem_insert_iff, or_comm]

theorem HasMembers.mem_identities {engine : MlsEngine mls}
    {groupId : Bytes} {credentials : Set Credential}
    (members : engine.HasMembers groupId credentials) :
    ∃ identities, engine.groupMemberIdentities groupId = .ok identities ∧
      ∀ identity, identity ∈ identities ↔ .basic identity ∈ credentials := by
  obtain ⟨group, loaded, _, mem⟩ := members
  refine ⟨(mls.members group).filterMap Credential.identity?, ?_, ?_⟩
  · unfold groupMemberIdentities
    rw [loaded]
    rfl
  · intro identity
    rw [← mem, List.mem_filterMap]
    constructor
    · rintro ⟨credential, member, named⟩
      cases credential with
      | basic own =>
          cases named
          exact member
      | other credentialType content => cases named
    · intro member
      exact ⟨.basic identity, member, rfl⟩

end MlsEngine

end Accord.AccordMls
