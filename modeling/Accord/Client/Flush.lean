import Accord.Client.Vault
import Accord.Library.EventRun

/-! The background flusher.  It takes all marks at once and then uploads one
blob after the other, while new marks come in. -/

namespace Accord

open EventRun

/-- `mls-state` of a user, or `hist/` and the group. -/
inductive VaultBlob where
  | mlsState (userId : String)
  | history (userId groupId : String)
  deriving DecidableEq

/-- What `put_sealed` comes to.  A blob may be stored although the reply to
the call is lost; otherwise a failure leaves the vault as it is. -/
inductive PutOutcome where
  | failed
  | unacknowledged
  | stored
  deriving DecidableEq

def PutOutcome.reaches : PutOutcome → Bool
  | .failed => false
  | _ => true

/-- `snapshots` are the latest states of the MLS engines, `archives` what
`plaintext_jsonl` makes of the local logs, and `appended` the logs that a
message was appended to and that are not marked for it yet.  `taken` is what
is left to do of the flush in progress. -/
structure VaultClient where
  snapshots : String → Option Bytes := fun _ => none
  archives : String × String → Option Bytes := fun _ => none
  appended : List (String × String) := []
  sync : Sync := {}
  taken : Sync := {}
  vault : VaultBlob → Option Bytes := fun _ => none

/-- Maps and sets are iterated in any order: an upload names its blob. -/
inductive VaultEvent where
  | markMls (userId : String) (bytes : Bytes)
  | append (userId groupId : String) (archive : Option Bytes)
  | markGroup (userId groupId : String)
  | flush
  | uploadMls (userId : String) (outcome : PutOutcome)
  | uploadGroup (userId groupId : String) (readable : Bool)
      (outcome : PutOutcome)

namespace VaultClient

variable (client : VaultClient)

def putSealed (blob : VaultBlob) (bytes : Bytes) (outcome : PutOutcome) :
    VaultClient :=
  if outcome.reaches then
    { client with vault := Function.update client.vault blob (some bytes) }
  else client

/-- The flusher is one task: it flushes again only after it has finished. -/
def flush : VaultClient :=
  if client.taken = {} then
    { client with sync := {}, taken := client.sync }
  else client

def uploadMls (userId : String) (outcome : PutOutcome) : VaultClient :=
  match client.taken.mls.lookup userId with
  | some bytes =>
      { client with
        taken.mls := client.taken.mls.filter (·.1 != userId) }.putSealed
          (.mlsState userId) bytes outcome
  | none => client

def uploadGroup (userId groupId : String) (readable : Bool)
    (outcome : PutOutcome) : VaultClient :=
  if client.taken.groups.contains (userId, groupId) then
    let rest := { client with
      taken.groups := client.taken.groups.filter (· != (userId, groupId)) }
    match if readable then client.archives (userId, groupId) else none with
    | some bytes => rest.putSealed (.history userId groupId) bytes outcome
    | none => rest
  else client

def step : VaultEvent → VaultClient
  | .markMls userId bytes =>
      { client with
        snapshots := Function.update client.snapshots userId (some bytes)
        sync := client.sync.markMls userId bytes }
  | .append userId groupId archive =>
      { client with
        archives := Function.update client.archives (userId, groupId) archive
        appended := (userId, groupId) :: client.appended }
  | .markGroup userId groupId =>
      { client with
        appended := client.appended.erase (userId, groupId)
        sync := client.sync.markGroup userId groupId }
  | .flush => client.flush
  | .uploadMls userId outcome => client.uploadMls userId outcome
  | .uploadGroup userId groupId readable outcome =>
      client.uploadGroup userId groupId readable outcome

def content : VaultBlob → Option Bytes
  | .mlsState userId => client.snapshots userId
  | .history userId groupId => client.archives (userId, groupId)

def Uploaded (blob : VaultBlob) : Prop :=
  ∀ bytes, client.content blob = some bytes → client.vault blob = some bytes

def MarkedIn (marks : Sync) : VaultBlob → Prop
  | .mlsState userId => ∃ bytes, client.snapshots userId = some bytes ∧
      (userId, bytes) ∈ marks.mls
  | .history userId groupId => (userId, groupId) ∈ marks.groups

def Appended : VaultBlob → Prop
  | .mlsState _ => False
  | .history userId groupId => (userId, groupId) ∈ client.appended

def Dirty (blob : VaultBlob) : Prop :=
  client.MarkedIn client.sync blob

/-- What is not in the vault is marked, is still to be uploaded by the flush
in progress, or is about to be marked. -/
def TrackedAt (blob : VaultBlob) : Prop :=
  client.Uploaded blob ∨ client.Dirty blob ∨
    client.MarkedIn client.taken blob ∨ client.Appended blob

def Tracked : Prop :=
  ∀ blob, client.TrackedAt blob

/-- An upload reaches the vault, with all that is to be uploaded, unless there
is nothing to do for the blob, or it is marked again. -/
def Arrives (client : VaultClient) : VaultEvent → Prop
  | .uploadMls userId outcome => outcome.reaches = true ∨
      client.taken.mls.lookup userId = none ∨
        client.Uploaded (.mlsState userId) ∨ client.Dirty (.mlsState userId)
  | .uploadGroup userId groupId readable outcome =>
      (readable = true ∧ outcome.reaches = true) ∨
        (userId, groupId) ∉ client.taken.groups ∨
          client.Uploaded (.history userId groupId) ∨
            client.Dirty (.history userId groupId) ∨
              client.Appended (.history userId groupId)
  | _ => True

/-- Marks are of the newest content, and so is what was taken unless it is
marked again. -/
structure Kept (client : VaultClient) : Prop where
  tracked : client.Tracked
  marks : ∀ userId bytes, (userId, bytes) ∈ client.sync.mls →
    client.snapshots userId = some bytes
  taken : ∀ userId bytes, (userId, bytes) ∈ client.taken.mls →
    client.snapshots userId = some bytes ∨ client.Dirty (.mlsState userId)

variable {client}

private theorem putSealed_of_reaches {outcome : PutOutcome}
    (reaches : outcome.reaches = true) (blob : VaultBlob) (bytes : Bytes) :
    client.putSealed blob bytes outcome =
      { client with
        vault := Function.update client.vault blob (some bytes) } := by
  unfold putSealed
  rw [if_pos reaches]

private theorem putSealed_of_fails {outcome : PutOutcome}
    (fails : outcome.reaches ≠ true) (blob : VaultBlob) (bytes : Bytes) :
    client.putSealed blob bytes outcome = client := by
  unfold putSealed
  rw [if_neg fails]

private theorem mem_of_lookup {userId : String} {bytes : Bytes}
    {marks : List (String × Bytes)}
    (found : marks.lookup userId = some bytes) : (userId, bytes) ∈ marks := by
  induction marks with
  | nil => cases found
  | cons mark rest induction =>
      rw [List.lookup_cons] at found
      cases same : userId == mark.1 with
      | true =>
          rw [same] at found
          cases found
          rw [beq_iff_eq.mp same]
          exact List.mem_cons_self
      | false =>
          rw [same] at found
          exact List.mem_cons_of_mem _ (induction found)

private theorem kept_markMls (kept : client.Kept) (userId : String)
    (bytes : Bytes) :
    (client.step (.markMls userId bytes)).Kept := by
  have own : (client.step (.markMls userId bytes)).Dirty
      (.mlsState userId) := by
    refine ⟨bytes, Function.update_self .., ?_⟩
    exact Sync.mem_markMls.mpr (.inl rfl)
  have same : ∀ {other : String}, other ≠ userId →
      (client.step (.markMls userId bytes)).snapshots other =
        client.snapshots other :=
    fun differs => Function.update_of_ne differs ..
  have dirty : ∀ {other : String}, other ≠ userId →
      client.Dirty (.mlsState other) →
        (client.step (.markMls userId bytes)).Dirty (.mlsState other) := by
    rintro other differs ⟨newest, snapshot, marked⟩
    refine ⟨newest, (same differs).trans snapshot, ?_⟩
    exact Sync.mem_markMls.mpr (.inr ⟨marked, differs⟩)
  refine ⟨?_, ?_, ?_⟩
  · intro blob
    cases blob with
    | history other groupId => exact kept.tracked (.history other groupId)
    | mlsState other =>
        by_cases differs : other = userId
        · exact .inr (.inl (differs ▸ own))
        · obtain uploaded | marked | taken | never :=
            kept.tracked (.mlsState other)
          · refine .inl fun newest snapshot => uploaded newest ?_
            exact (same differs).symm.trans snapshot
          · exact .inr (.inl (dirty differs marked))
          · obtain ⟨newest, snapshot, listed⟩ := taken
            exact .inr (.inr (.inl
              ⟨newest, (same differs).trans snapshot, listed⟩))
          · exact never.elim
  · intro other newest marked
    cases Sync.mem_markMls.mp marked with
    | inl own =>
        cases own
        exact Function.update_self ..
    | inr old => exact (same old.2).trans (kept.marks _ _ old.1)
  · intro other newest listed
    by_cases differs : other = userId
    · exact .inr (differs ▸ own)
    · obtain snapshot | marked := kept.taken other newest listed
      · exact .inl ((same differs).trans snapshot)
      · exact .inr (dirty differs marked)

private theorem kept_append (kept : client.Kept) (userId groupId : String)
    (archive : Option Bytes) :
    (client.step (.append userId groupId archive)).Kept := by
  refine ⟨fun blob => ?_, kept.marks, kept.taken⟩
  cases blob with
  | mlsState other => exact kept.tracked (.mlsState other)
  | history other group =>
      by_cases differs : (other, group) = (userId, groupId)
      · cases differs
        exact .inr (.inr (.inr List.mem_cons_self))
      · obtain uploaded | marked | taken | appended :=
          kept.tracked (.history other group)
        · refine .inl fun newest archived => uploaded newest ?_
          exact (Function.update_of_ne differs ..).symm.trans archived
        · exact .inr (.inl marked)
        · exact .inr (.inr (.inl taken))
        · exact .inr (.inr (.inr (List.mem_cons_of_mem _ appended)))

private theorem kept_markGroup (kept : client.Kept) (userId groupId : String) :
    (client.step (.markGroup userId groupId)).Kept := by
  have sameMls : (client.sync.markGroup userId groupId).mls =
      client.sync.mls := by
    unfold Sync.markGroup
    split <;> rfl
  have dirty : ∀ other, client.Dirty (.mlsState other) →
      (client.step (.markGroup userId groupId)).Dirty (.mlsState other) := by
    rintro other ⟨newest, snapshot, marked⟩
    exact ⟨newest, snapshot, sameMls ▸ marked⟩
  refine ⟨fun blob => ?_, ?_, ?_⟩
  · cases blob with
    | mlsState other =>
        obtain uploaded | marked | taken | never :=
          kept.tracked (.mlsState other)
        · exact .inl uploaded
        · exact .inr (.inl (dirty other marked))
        · exact .inr (.inr (.inl taken))
        · exact never.elim
    | history other group =>
        obtain uploaded | marked | taken | appended :=
          kept.tracked (.history other group)
        · exact .inl uploaded
        · exact .inr (.inl (Sync.mem_markGroup.mpr (.inr marked)))
        · exact .inr (.inr (.inl taken))
        · by_cases own : (other, group) = (userId, groupId)
          · exact .inr (.inl (Sync.mem_markGroup.mpr (.inl own)))
          · refine .inr (.inr (.inr ?_))
            exact (List.mem_erase_of_ne own).mpr appended
  · intro other newest marked
    exact kept.marks other newest (sameMls ▸ marked)
  · intro other newest listed
    exact (kept.taken other newest listed).imp_right (dirty other)

private theorem kept_flush (kept : client.Kept) : client.flush.Kept := by
  unfold flush
  split
  · next idle =>
    refine ⟨fun blob => ?_, fun _ _ marked => absurd marked List.not_mem_nil,
      fun other newest marked => .inl (kept.marks other newest marked)⟩
    obtain uploaded | marked | taken | appended := kept.tracked blob
    · exact .inl uploaded
    · refine .inr (.inr (.inl ?_))
      cases blob <;> exact marked
    · rw [idle] at taken
      cases blob with
      | mlsState other =>
          obtain ⟨newest, _, listed⟩ := taken
          exact absurd listed List.not_mem_nil
      | history other group => exact absurd taken List.not_mem_nil
    · exact .inr (.inr (.inr appended))
  · exact kept

theorem TrackedAt.frame {after : VaultClient} {blob : VaultBlob}
    (tracked : client.TrackedAt blob)
    (content : after.content blob = client.content blob)
    (vault : after.vault blob = client.vault blob)
    (dirty : client.Dirty blob → after.Dirty blob)
    (taken : client.MarkedIn client.taken blob →
      after.MarkedIn after.taken blob)
    (appended : client.Appended blob → after.Appended blob) :
    after.TrackedAt blob := by
  refine tracked.imp ?_ (.imp dirty (.imp taken appended))
  intro uploaded
  unfold Uploaded
  rw [content, vault]
  exact uploaded

private theorem uploadMls_some {userId : String} {bytes : Bytes}
    {outcome : PutOutcome}
    (found : client.taken.mls.lookup userId = some bytes) :
    client.uploadMls userId outcome =
      { client with
        taken.mls := client.taken.mls.filter (·.1 != userId)
        vault := if outcome.reaches then
          Function.update client.vault (.mlsState userId) (some bytes)
        else client.vault } := by
  unfold uploadMls putSealed
  rw [found]
  dsimp only
  split <;> rfl

private theorem kept_uploadMls (kept : client.Kept) {userId : String}
    {outcome : PutOutcome}
    (arrives : client.Arrives (.uploadMls userId outcome)) :
    (client.uploadMls userId outcome).Kept := by
  cases found : client.taken.mls.lookup userId with
  | none =>
      unfold uploadMls
      rw [found]
      exact kept
  | some bytes =>
      rw [uploadMls_some found]
      refine ⟨fun blob => ?_, kept.marks, fun other newest listed =>
        kept.taken other newest (List.mem_of_mem_filter listed)⟩
      by_cases own : blob = .mlsState userId
      · subst own
        by_cases reaches : outcome.reaches = true
        · obtain snapshot | dirty :=
            kept.taken userId bytes (mem_of_lookup found)
          · refine .inl fun newest content => ?_
            have same : bytes = newest :=
              Option.some_inj.mp (snapshot.symm.trans content)
            rw [← same, if_pos reaches]
            exact Function.update_self ..
          · exact .inr (.inl dirty)
        · rw [if_neg reaches]
          obtain absent | uploaded | dirty := arrives.resolve_left reaches
          · rw [found] at absent
            cases absent
          · exact .inl uploaded
          · exact .inr (.inl dirty)
      · have vault : (if outcome.reaches = true then
            Function.update client.vault (.mlsState userId) (some bytes)
          else client.vault) blob = client.vault blob := by
          split
          · exact Function.update_of_ne own ..
          · rfl
        cases blob with
        | history other group =>
            exact (kept.tracked _).frame rfl vault id id id
        | mlsState other =>
            refine (kept.tracked _).frame rfl vault id ?_ id
            rintro ⟨newest, snapshot, listed⟩
            refine ⟨newest, snapshot, List.mem_filter.mpr ⟨listed, ?_⟩⟩
            exact bne_iff_ne.mpr fun same => own (congrArg _ same)

private theorem lost_uploadMls {userId : String} {outcome : PutOutcome}
    (loses : ¬client.Arrives (.uploadMls userId outcome)) :
    ¬(client.uploadMls userId outcome).Tracked := by
  intro tracked
  simp only [Arrives, not_or] at loses
  obtain ⟨fails, present, stale, unmarked⟩ := loses
  obtain ⟨bytes, found⟩ := Option.ne_none_iff_exists'.mp present
  have after := tracked (.mlsState userId)
  rw [uploadMls_some found, if_neg fails] at after
  obtain uploaded | dirty | ⟨newest, _, listed⟩ | never := after
  · exact stale uploaded
  · exact unmarked dirty
  · have other := List.of_mem_filter listed
    exact (bne_iff_ne.mp other) rfl
  · exact never

def withoutTaken (client : VaultClient) (userId groupId : String) :
    VaultClient :=
  { client with
    taken.groups := client.taken.groups.filter (· != (userId, groupId)) }

/-- A readable history that is not empty is stored, if the upload reaches the
vault. -/
private theorem uploadGroup_cases {userId groupId : String} {readable : Bool}
    {outcome : PutOutcome} (taken : (userId, groupId) ∈ client.taken.groups) :
    (∃ bytes, (readable = true ∧ outcome.reaches = true) ∧
      client.archives (userId, groupId) = some bytes ∧
      client.uploadGroup userId groupId readable outcome =
        { client.withoutTaken userId groupId with
          vault := Function.update client.vault (.history userId groupId)
            (some bytes) }) ∨
    ((readable = true ∧ outcome.reaches = true →
        client.archives (userId, groupId) = none) ∧
      client.uploadGroup userId groupId readable outcome =
        client.withoutTaken userId groupId) := by
  unfold uploadGroup
  rw [if_pos (List.contains_iff_mem.mpr taken)]
  cases readable with
  | false => exact .inr ⟨fun never => absurd never.1 Bool.false_ne_true, rfl⟩
  | true =>
      cases archived : client.archives (userId, groupId) with
      | none => exact .inr ⟨fun _ => rfl, rfl⟩
      | some bytes =>
          by_cases reaches : outcome.reaches = true
          · exact .inl ⟨bytes, ⟨rfl, reaches⟩, rfl,
              putSealed_of_reaches reaches _ _⟩
          · refine .inr ⟨fun both => absurd both.2 reaches, ?_⟩
            exact putSealed_of_fails reaches _ _

private theorem TrackedAt.withoutTaken {blob : VaultBlob}
    {userId groupId : String}
    {vault : VaultBlob → Option Bytes} (tracked : client.TrackedAt blob)
    (other : blob ≠ .history userId groupId)
    (same : vault blob = client.vault blob) :
    TrackedAt { client.withoutTaken userId groupId with vault } blob := by
  cases blob with
  | mlsState own => exact tracked.frame rfl same id id id
  | history own group =>
      refine tracked.frame rfl same id (fun listed => ?_) id
      refine List.mem_filter.mpr ⟨listed, bne_iff_ne.mpr ?_⟩
      rintro ⟨⟩
      exact other rfl

private theorem kept_uploadGroup (kept : client.Kept) {userId groupId : String}
    {readable : Bool} {outcome : PutOutcome}
    (arrives : client.Arrives
      (.uploadGroup userId groupId readable outcome)) :
    (client.uploadGroup userId groupId readable outcome).Kept := by
  by_cases taken : (userId, groupId) ∈ client.taken.groups
  · obtain ⟨bytes, _, archived, same⟩ | ⟨absent, same⟩ :=
      uploadGroup_cases taken
    · rw [same]
      refine ⟨fun blob => ?_, kept.marks, kept.taken⟩
      by_cases own : blob = .history userId groupId
      · subst own
        refine .inl fun newest content => ?_
        rw [← Option.some_inj.mp (archived.symm.trans content)]
        exact Function.update_self ..
      · exact (kept.tracked blob).withoutTaken own
          (Function.update_of_ne own ..)
    · rw [same]
      refine ⟨fun blob => ?_, kept.marks, kept.taken⟩
      by_cases own : blob = .history userId groupId
      · subst own
        obtain reaches | untaken | uploaded | dirty | appended := arrives
        · refine .inl fun newest content => ?_
          cases (absent reaches).symm.trans content
        · exact absurd taken untaken
        · exact .inl uploaded
        · exact .inr (.inl dirty)
        · exact .inr (.inr (.inr appended))
      · exact (kept.tracked blob).withoutTaken own rfl
  · unfold uploadGroup
    rw [if_neg (mt List.contains_iff_mem.mp taken)]
    exact kept

private theorem lost_uploadGroup {userId groupId : String} {readable : Bool}
    {outcome : PutOutcome}
    (loses : ¬client.Arrives
      (.uploadGroup userId groupId readable outcome)) :
    ¬(client.uploadGroup userId groupId readable outcome).Tracked := by
  intro tracked
  simp only [Arrives, not_or, not_not] at loses
  obtain ⟨fails, taken, stale, unmarked, unappended⟩ := loses
  have after := tracked (.history userId groupId)
  obtain ⟨bytes, reaches, _, _⟩ | ⟨_, same⟩ :=
    uploadGroup_cases taken
  · exact fails reaches
  · rw [same] at after
    obtain uploaded | dirty | listed | appended := after
    · exact stale uploaded
    · exact unmarked dirty
    · have other : (userId, groupId) ∈
          client.taken.groups.filter (· != (userId, groupId)) := listed
      exact absurd rfl (bne_iff_ne.mp (List.mem_filter.mp other).2)
    · exact unappended appended

theorem Kept.step (kept : client.Kept) {event : VaultEvent}
    (arrives : client.Arrives event) : (client.step event).Kept := by
  cases event with
  | markMls userId bytes => exact kept_markMls kept userId bytes
  | append userId groupId archive =>
      exact kept_append kept userId groupId archive
  | markGroup userId groupId => exact kept_markGroup kept userId groupId
  | flush => exact kept_flush kept
  | uploadMls => exact kept_uploadMls kept arrives
  | uploadGroup => exact kept_uploadGroup kept arrives

private theorem lost_of_not_arrives {event : VaultEvent}
    (loses : ¬client.Arrives event) : ¬(client.step event).Tracked := by
  cases event with
  | uploadMls => exact lost_uploadMls loses
  | uploadGroup => exact lost_uploadGroup loses
  | markMls | append | markGroup | flush => exact absurd trivial loses

/-- A client that has marked nothing yet: an archive is in the vault, or it is
going to be marked. -/
structure Fresh (client : VaultClient) : Prop where
  sync : client.sync = {}
  taken : client.taken = {}
  tracked : client.Tracked

/-- No change is lost sight of exactly if every upload arrives, or its blob is
marked again by then. -/
theorem tracked_iff_arrives (fresh : client.Fresh)
    (events : List VaultEvent) :
    Always step Tracked client events ↔ Each step Arrives client events := by
  have kept : client.Kept := by
    refine ⟨fresh.tracked, fun _ _ marked => ?_, fun _ _ listed => ?_⟩
    · rw [fresh.sync] at marked
      exact absurd marked List.not_mem_nil
    · rw [fresh.taken] at listed
      exact absurd listed List.not_mem_nil
  have tracked : ∀ client : VaultClient, client.Kept → client.Tracked :=
    fun _ holds => holds.tracked
  refine always_iff_each_of tracked ?_ ?_ kept events
  · exact fun _ _ holds arrives => Kept.step holds arrives
  · exact fun _ _ _ loses => lost_of_not_arrives loses

private theorem fresh_empty : Fresh {} := by
  refine ⟨rfl, rfl, fun blob => .inl fun bytes content => ?_⟩
  cases blob <;> cases content

theorem remarked_tracked :
    Always step Tracked {}
      [.markMls "ann" [1], .flush, .markMls "ann" [2],
        .uploadMls "ann" .failed, .flush, .uploadMls "ann" .stored] := by
  refine (tracked_iff_arrives fresh_empty _).mpr ?_
  refine ⟨trivial, trivial, trivial, ?_, trivial, .inl rfl, trivial⟩
  exact .inr (.inr (.inr ⟨[2], rfl, List.mem_singleton_self _⟩))

theorem failed_upload_untracked :
    ¬Always step Tracked {}
      [.markMls "ann" [1], .flush, .uploadMls "ann" .failed] := by
  intro always
  obtain uploaded | ⟨_, _, marked⟩ | ⟨_, _, listed⟩ | never :=
    always.last (.mlsState "ann")
  · cases uploaded [1] rfl
  · cases marked
  · cases listed
  · exact never

end VaultClient

end Accord
