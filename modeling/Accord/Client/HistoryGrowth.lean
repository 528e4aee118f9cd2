import Accord.Client.History

/-! What uploads make of the vault's history.  Each is put together from one
log alone, whatever the blob is that it replaces. -/

namespace Accord

open EventRun

variable {vault : String → Option VaultArchive} {stamps : ℕ}

/-- The messages include those of the upload with the stamp, as long as it is
in the vault. -/
structure Covers (vault : String → Option VaultArchive) (stamps : ℕ)
    (groupId : String) (stamp : ℕ) (messages : List ArchivedMessage) :
    Prop where
  stamped : stamp ≤ stamps
  covered : ∀ old, vault groupId = some old → old.stamp = stamp →
    old.messages ⊆ messages

theorem Covers.mono {groupId : String} {stamp : ℕ}
    {messages more : List ArchivedMessage}
    (covers : Covers vault stamps groupId stamp messages)
    (grown : messages ⊆ more) : Covers vault stamps groupId stamp more where
  stamped := covers.stamped
  covered old present same :=
    List.Subset.trans (covers.covered old present same) grown

theorem Covers.put {groupId other : String} {stamp : ℕ}
    {messages uploaded : List ArchivedMessage}
    (covers : Covers vault stamps groupId stamp messages) :
    Covers (Function.update vault other (some ⟨uploaded, stamps + 1⟩))
      (stamps + 1) groupId stamp messages where
  stamped := Nat.le_succ_of_le covers.stamped
  covered old present same := by
    by_cases own : groupId = other
    · subst own
      rw [Function.update_self] at present
      cases present
      have before := covers.stamped
      have after : stamps + 1 = stamp := same
      omega
    · rw [Function.update_of_ne own] at present
      exact covers.covered old present same

namespace HistoryFile

private theorem load_subset (opens : ℕ → Bool) (file : HistoryFile) :
    file.load opens ⊆ file.messages := by
  intro message member
  obtain ⟨entry, listed, decoded⟩ := List.mem_filterMap.mp member
  unfold LogRecord.decode at decoded
  split at decoded
  · cases decoded
  · cases decoded
    exact List.mem_map_of_mem (List.fst_mem_of_mem_zipIdx listed)

end HistoryFile

namespace HistoryInstall

/-- Each log has what the upload has that it goes back to, and so have the
uploads and restores under way. -/
structure Kept (vault : String → Option VaultArchive) (stamps : ℕ)
    (install : HistoryInstall) : Prop where
  lives : ∀ groupId file, install.files groupId = some file →
    file.life ≤ install.lives
  files : ∀ groupId file, install.files groupId = some file →
    ∀ stamp, file.base = some stamp →
      Covers vault stamps groupId stamp file.messages
  uploaded : ∀ upload, install.uploading = some upload →
    upload.messages ⊆ upload.file.messages
  uploading : ∀ upload, install.uploading = some upload →
    ∀ stamp, upload.file.base = some stamp →
      Covers vault stamps upload.groupId stamp upload.file.messages
  alive : ∀ upload, install.uploading = some upload →
    upload.file.life ≤ install.lives
  grown : ∀ upload, install.uploading = some upload →
    ∀ file, install.files upload.groupId = some file →
      file.life = upload.file.life → upload.file.messages ⊆ file.messages
  restoring : ∀ restore ∈ install.restoring,
    Covers vault stamps restore.groupId restore.archive.stamp
      restore.archive.messages

variable {install : HistoryInstall}

theorem kept_empty : Kept vault stamps {} where
  lives _ _ never := by cases never
  files _ _ never := by cases never
  uploaded _ never := by cases never
  uploading _ never := by cases never
  alive _ never := by cases never
  grown _ never := by cases never
  restoring _ never := absurd never List.not_mem_nil

theorem Kept.markGroup (kept : install.Kept vault stamps)
    (groupId : String) : (install.markGroup groupId).Kept vault stamps := by
  unfold HistoryInstall.markGroup
  split
  · exact kept
  · exact { kept with }

theorem Kept.flush (kept : install.Kept vault stamps) :
    install.flush.Kept vault stamps := by
  unfold HistoryInstall.flush
  split
  · exact { kept with }
  · exact kept

theorem Kept.markLocal (kept : install.Kept vault stamps)
    (groupId : String) : (install.markLocal groupId).Kept vault stamps := by
  unfold HistoryInstall.markLocal
  split
  · exact kept.markGroup groupId
  · exact kept

private theorem Kept.ages (kept : install.Kept vault stamps) {lives : ℕ}
    (later : install.lives ≤ lives) :
    Kept vault stamps { install with lives } :=
  { kept with
    lives := fun groupId file present =>
      (kept.lives groupId file present).trans later
    alive := fun upload pending => (kept.alive upload pending).trans later }

theorem Kept.write (kept : install.Kept vault stamps) {groupId : String}
    {file : HistoryFile} {lives : ℕ} (later : install.lives ≤ lives)
    (alive : file.life ≤ lives)
    (covers : ∀ stamp, file.base = some stamp →
      Covers vault stamps groupId stamp file.messages)
    (grown : ∀ upload, install.uploading = some upload →
      upload.groupId = groupId → file.life = upload.file.life →
        upload.file.messages ⊆ file.messages) :
    Kept vault stamps { install with
      files := Function.update install.files groupId (some file)
      lives } := by
  refine { kept with lives := ?_, files := ?_, alive := ?_, grown := ?_ }
  · intro other found present
    change Function.update install.files groupId (some file) other = _
      at present
    by_cases own : other = groupId
    · subst own
      rw [Function.update_self] at present
      cases present
      exact alive
    · rw [Function.update_of_ne own] at present
      exact (kept.lives other found present).trans later
  · intro other found present
    change Function.update install.files groupId (some file) other = _
      at present
    by_cases own : other = groupId
    · subst own
      rw [Function.update_self] at present
      cases present
      exact covers
    · rw [Function.update_of_ne own] at present
      exact kept.files other found present
  · exact fun upload pending => (kept.alive upload pending).trans later
  · intro upload pending found present
    change Function.update install.files groupId (some file)
      upload.groupId = _ at present
    by_cases own : upload.groupId = groupId
    · rw [own, Function.update_self] at present
      cases present
      exact grown upload pending own
    · rw [Function.update_of_ne own] at present
      exact kept.grown upload pending found present

theorem Kept.record (kept : install.Kept vault stamps) (written : Bool)
    (groupId : String) (record : LogRecord) :
    (install.record written groupId record).Kept vault stamps := by
  unfold HistoryInstall.record
  refine Kept.markGroup ?_ groupId
  split
  · cases present : install.files groupId with
    | none =>
        refine kept.write (Nat.le_succ _) le_rfl nofun ?_
        intro upload pending _ same
        have older := kept.alive upload pending
        have newer : install.lives + 1 = upload.file.life := same
        omega
    | some file =>
        have more : file.messages ⊆
            (file.records ++ [record]).map (·.message) := by
          rw [List.map_append]
          exact List.subset_append_left _ _
        refine kept.write le_rfl (kept.lives groupId file present) ?_ ?_
        · intro stamp base
          exact (kept.files groupId file present stamp base).mono more
        · rintro upload pending rfl same
          exact List.Subset.trans
            (kept.grown upload pending file present same) more
  · exact kept

theorem Kept.load (kept : install.Kept vault stamps) (groupId : String)
    (reads : Bool) (opens : ℕ → Bool) :
    (install.load groupId reads opens).Kept vault stamps := by
  unfold HistoryInstall.load
  split
  · have made : ∀ upload,
        ((install.files groupId).bind fun file =>
          if reads && !(file.load opens).isEmpty then
            some (ArchiveUpload.mk groupId (file.load opens) file)
          else none) = some upload →
        upload.groupId = groupId ∧
          install.files groupId = some upload.file ∧
            upload.messages = upload.file.load opens := by
      intro upload pending
      obtain ⟨file, present, built⟩ := Option.bind_eq_some_iff.mp pending
      split at built
      · cases built
        exact ⟨rfl, present, rfl⟩
      · cases built
    refine { kept with
      uploaded := ?_, uploading := ?_, alive := ?_, grown := ?_ }
    · intro upload pending
      obtain ⟨_, _, same⟩ := made upload pending
      rw [same]
      exact upload.file.load_subset opens
    · intro upload pending stamp base
      obtain ⟨own, present, _⟩ := made upload pending
      rw [own]
      exact kept.files groupId upload.file present stamp base
    · intro upload pending
      obtain ⟨_, present, _⟩ := made upload pending
      exact kept.lives groupId upload.file present
    · intro upload pending file present _
      obtain ⟨own, before, _⟩ := made upload pending
      rw [own] at present
      cases before.symm.trans present
      exact List.Subset.refl _
  · exact kept

theorem Kept.restoreRead (kept : install.Kept vault stamps)
    {groupId : String} {archive : Option VaultArchive}
    (read : ∀ old, archive = some old →
      Covers vault stamps groupId old.stamp old.messages) :
    (install.restoreRead groupId archive).Kept vault stamps := by
  unfold HistoryInstall.restoreRead
  split
  · next old _ =>
    refine { kept with restoring := fun restore member => ?_ }
    cases List.mem_cons.mp member with
    | inl own =>
        rw [own]
        exact read old rfl
    | inr listed => exact kept.restoring restore listed
  · exact kept

theorem Kept.restoreWrite (kept : install.Kept vault stamps)
    (userId : String) (encryptAtRest : Bool) (write : FileWrite String)
    (restore : ArchiveRestore) :
    (install.restoreWrite userId encryptAtRest write restore).Kept
      vault stamps := by
  unfold HistoryInstall.restoreWrite
  split
  · next listed =>
    have settled : Kept vault stamps
        { install with
          restoring := install.restoring.erase restore } :=
      { kept with
        restoring := fun other member =>
          kept.restoring other (List.mem_of_mem_erase member) }
    have fresh : ∀ upload, install.uploading = some upload →
        install.lives + 1 ≠ upload.file.life := by
      intro upload pending same
      have older := kept.alive upload pending
      omega
    cases write with
    | done =>
        refine settled.write (Nat.le_succ _) le_rfl ?_ ?_
        · rintro stamp ⟨⟩
          refine (kept.restoring restore listed).mono ?_
          intro message member
          unfold HistoryFile.messages
          rw [List.map_map]
          exact List.mem_map.mpr ⟨message, member, rfl⟩
        · exact fun upload pending _ same => absurd same (fresh upload pending)
    | torn cause size =>
        refine settled.write (Nat.le_succ _) le_rfl ?_ ?_
        · rintro stamp ⟨⟩
        · exact fun upload pending _ same => absurd same (fresh upload pending)
    | unopened cause =>
        simp only [FileWrite.leaves, Function.update_eq_self]
        exact settled.ages (Nat.le_succ _)
  · exact kept

theorem Kept.elsewhere (kept : install.Kept vault stamps)
    {groupId : String} {uploaded : List ArchivedMessage} :
    install.Kept
      (Function.update vault groupId (some ⟨uploaded, stamps + 1⟩))
      (stamps + 1) where
  lives := kept.lives
  files other file present stamp base :=
    (kept.files other file present stamp base).put
  uploaded := kept.uploaded
  uploading upload pending stamp base :=
    (kept.uploading upload pending stamp base).put
  alive := kept.alive
  grown := kept.grown
  restoring restore member := (kept.restoring restore member).put

theorem Kept.settled (kept : install.Kept vault stamps) :
    Kept vault stamps { install with uploading := none } where
  lives := kept.lives
  files := kept.files
  uploaded _ never := by cases never
  uploading _ never := by cases never
  alive _ never := by cases never
  grown _ never := by cases never
  restoring := kept.restoring

private theorem Kept.settle_none (kept : install.Kept vault stamps) :
    (install.settle none).Kept vault stamps := by
  unfold HistoryInstall.settle
  split
  · exact kept
  · exact kept.settled

private theorem Kept.settle_some (kept : install.Kept vault stamps)
    {upload : ArchiveUpload} (pending : install.uploading = some upload) :
    (install.settle (some (stamps + 1))).Kept
      (Function.update vault upload.groupId
        (some ⟨upload.messages, stamps + 1⟩)) (stamps + 1) := by
  have after : Kept
      (Function.update vault upload.groupId
        (some ⟨upload.messages, stamps + 1⟩)) (stamps + 1)
      { install with uploading := none } := kept.elsewhere.settled
  unfold HistoryInstall.settle
  rw [pending]
  dsimp only
  cases present : install.files upload.groupId with
  | none => exact after
  | some file =>
      dsimp only
      split
      · next same =>
        refine after.write le_rfl (kept.lives _ file present) ?_ nofun
        rintro stamp ⟨⟩
        refine ⟨le_rfl, fun old stored _ => ?_⟩
        rw [Function.update_self] at stored
        cases stored
        exact List.Subset.trans (kept.uploaded upload pending)
          (kept.grown upload pending file present same)
      · exact after

end HistoryInstall

namespace HistoryAccount

/-- Each upload had all that it replaced. -/
def NeverShrinks (account : HistoryAccount) : Prop :=
  ∀ pair ∈ account.replaced, pair.1 ⊆ pair.2

/-- A put that replaces a blob replaces the one that its log goes back to,
and every record of the log could be decoded. -/
def BuildsOn (account : HistoryAccount) : ℕ × HistoryEvent → Prop
  | (index, .put outcome) => outcome.reaches = true →
      ∀ upload, (account.installs index).uploading = some upload →
        ∀ old, account.vault upload.groupId = some old →
          upload.file.base = some old.stamp ∧
            upload.messages = upload.file.messages
  | _ => True

structure Kept (account : HistoryAccount) : Prop where
  never : account.NeverShrinks
  stamped : ∀ groupId old, account.vault groupId = some old →
    old.stamp ≤ account.stamps
  installs : ∀ index,
    (account.installs index).Kept account.vault account.stamps

variable {account : HistoryAccount}

theorem Kept.update (kept : account.Kept) {index : ℕ}
    {install : HistoryInstall}
    (own : install.Kept account.vault account.stamps) :
    (account.update index install).Kept := by
  refine ⟨kept.never, kept.stamped, fun other => ?_⟩
  by_cases same : other = index
  · subst same
    change (Function.update account.installs other install other).Kept _ _
    rw [Function.update_self]
    exact own
  · change (Function.update account.installs index install other).Kept _ _
    rw [Function.update_of_ne same]
    exact kept.installs other

theorem Kept.put (kept : account.Kept) {index : ℕ} {outcome : PutOutcome}
    (builds : account.BuildsOn (index, .put outcome)) :
    (account.put index outcome).Kept := by
  unfold HistoryAccount.put
  cases pending : (account.installs index).uploading with
  | none => exact kept
  | some upload =>
      dsimp only
      split
      · next reaches =>
        refine ⟨?_, ?_, ?_⟩
        · intro pair member
          cases List.mem_append.mp member with
          | inl before => exact kept.never pair before
          | inr replaced =>
              obtain ⟨old, stored, rfl⟩ := List.mem_map.mp replaced
              have present : account.vault upload.groupId = some old := by
                simpa using stored
              obtain ⟨base, all⟩ := builds reaches upload pending old present
              have covers := (kept.installs index).uploading upload pending
                old.stamp base
              have included := covers.covered old present rfl
              rwa [← all] at included
        · intro groupId old present
          change Function.update account.vault upload.groupId _ groupId = _
            at present
          by_cases own : groupId = upload.groupId
          · subst own
            rw [Function.update_self] at present
            cases present
            exact le_rfl
          · rw [Function.update_of_ne own] at present
            exact Nat.le_succ_of_le (kept.stamped groupId old present)
        · intro other
          by_cases same : other = index
          · subst same
            change (Function.update account.installs other _ other).Kept _ _
            rw [Function.update_self]
            exact (kept.installs other).settle_some pending
          · change (Function.update account.installs index _ other).Kept _ _
            rw [Function.update_of_ne same]
            exact (kept.installs other).elsewhere
      · exact kept.update (kept.installs index).settle_none

theorem Kept.step (kept : account.Kept) {userId : String}
    {event : ℕ × HistoryEvent} (builds : account.BuildsOn event) :
    (account.step userId event).Kept := by
  obtain ⟨index, event⟩ := event
  have own := kept.installs index
  cases event with
  | record message encryptAtRest written =>
      exact kept.update (own.record written message.groupId _)
  | flush => exact kept.update own.flush
  | load groupId reads opens => exact kept.update (own.load groupId reads opens)
  | put outcome => exact kept.put builds
  | restoreRead groupId found =>
      refine kept.update (own.restoreRead fun old read => ?_)
      cases found with
      | false => cases read
      | true =>
          have present : account.vault groupId = some old := read
          refine ⟨kept.stamped groupId old present, fun other stored _ => ?_⟩
          cases present.symm.trans stored
          exact List.Subset.refl _
  | restoreWrite restore encryptAtRest write =>
      exact kept.update (own.restoreWrite userId encryptAtRest write restore)
  | markLocal groupId => exact kept.update (own.markLocal groupId)

/-- The history in the vault never shrinks if every put replaces a blob that
its own log goes back to. -/
theorem never_shrinks (userId : String) {events : List (ℕ × HistoryEvent)}
    (builds : Each (step userId) BuildsOn {} events) :
    Always (step userId) NeverShrinks {} events := by
  have kept : Kept {} := by
    refine ⟨fun _ never => absurd never List.not_mem_nil, ?_, ?_⟩
    · intro _ _ never
      cases never
    · exact fun _ => HistoryInstall.kept_empty
  have always : Always (step userId) Kept {} events := by
    refine always_of_step ?_ kept builds
    exact fun account event holds allowed => Kept.step holds allowed
  exact always.imp fun _ holds => holds.never

def noted (content : String) : ArchivedMessage :=
  ⟨"dm", "bob", content, 0⟩

def uploads (index : ℕ) (content : String) : List (ℕ × HistoryEvent) :=
  [(index, .record (noted content) false true), (index, .flush),
    (index, .load "dm" true fun _ => true), (index, .put .stored)]

theorem one_install_grows :
    Always (step "ann") NeverShrinks {}
      (uploads 0 "hello" ++ uploads 0 "again") := by
  refine never_shrinks "ann" ⟨trivial, trivial, trivial, ?_, trivial,
    trivial, trivial, ?_, trivial⟩
  · intro _ upload pending old present
    cases pending
    cases present
  · intro _ upload pending old present
    cases pending
    cases present
    exact ⟨rfl, rfl⟩

/-- A second installation could not read the blob when it was set up. -/
theorem second_install_shrinks :
    ¬Always (step "ann") NeverShrinks {}
      (uploads 0 "hello" ++ [(1, .restoreRead "dm" false)] ++
        uploads 1 "again") := by
  intro always
  have replaced := always.last ([noted "hello"], [noted "again"])
    (List.mem_singleton_self _)
  exact absurd (replaced (List.mem_singleton_self _)) (by decide)

end HistoryAccount

end Accord
