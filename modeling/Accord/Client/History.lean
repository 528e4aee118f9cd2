import Accord.Client.Flush
import Accord.Library.FileWrite

/-! The archive of private messages: a log on each installation, and a blob in
the vault that the uploads of all installations of an account replace. -/

namespace Accord

structure ArchivedMessage where
  groupId : String
  senderId : String
  content : String
  timestampMs : Int
  deriving DecidableEq

/-- A record of a log.  A sealed payload may fail to open later. -/
structure LogRecord where
  isSealed : Bool
  message : ArchivedMessage
  deriving DecidableEq

/-- A log.  Its `life` begins when the file is written anew, and `base` is the
upload that the installation has restored it from in full or has stored last
itself; the code keeps no record of either. -/
structure HistoryFile where
  records : List LogRecord
  base : Option ℕ := none
  life : ℕ
  deriving DecidableEq

/-- The content of a blob, as its JSON lines, and the number of its upload. -/
structure VaultArchive where
  messages : List ArchivedMessage
  stamp : ℕ
  deriving DecidableEq

/-- An upload under way: what of the log could be decoded, with the log as it
was then. -/
structure ArchiveUpload where
  groupId : String
  messages : List ArchivedMessage
  file : HistoryFile
  deriving DecidableEq

structure ArchiveRestore where
  groupId : String
  archive : VaultArchive
  deriving DecidableEq

structure HistoryInstall where
  files : String → Option HistoryFile := fun _ => none
  marked : List String := []
  taken : List String := []
  uploading : Option ArchiveUpload := none
  restoring : List ArchiveRestore := []
  lives : ℕ := 0

/-- The installations of an account and its vault.  `replaced` has what each
upload has replaced, and what it was replaced by. -/
structure HistoryAccount where
  installs : ℕ → HistoryInstall := fun _ => {}
  vault : String → Option VaultArchive := fun _ => none
  stamps : ℕ := 0
  replaced : List (List ArchivedMessage × List ArchivedMessage) := []

/-- Own messages are sealed only if the settings say so. -/
def LogRecord.encode (userId : String) (encryptAtRest : Bool)
    (message : ArchivedMessage) : LogRecord where
  isSealed := message.senderId != userId || encryptAtRest
  message := message

def LogRecord.decode (opens : Bool) (record : LogRecord) :
    Option ArchivedMessage :=
  if record.isSealed && !opens then none else some record.message

namespace HistoryFile

def messages (file : HistoryFile) : List ArchivedMessage :=
  file.records.map (·.message)

/-- `opens` tells of each sealed record whether it can be opened just now. -/
def load (opens : ℕ → Bool) (file : HistoryFile) : List ArchivedMessage :=
  file.records.zipIdx.filterMap fun entry => entry.1.decode (opens entry.2)

/-- The first `size` records, as of no upload. -/
def cut (size : ℕ) (file : HistoryFile) : HistoryFile :=
  { file with records := file.records.take size, base := none }

end HistoryFile

namespace HistoryInstall

variable (install : HistoryInstall)

def markGroup (groupId : String) : HistoryInstall :=
  if groupId ∈ install.marked then install
  else { install with marked := install.marked ++ [groupId] }

/-- A record is appended if it can be sealed and written; the group is marked
in any case. -/
def record (written : Bool) (groupId : String) (record : LogRecord) :
    HistoryInstall :=
  let appended :=
    if written then
      match install.files groupId with
      | some file =>
          { install with
            files := Function.update install.files groupId
              (some { file with records := file.records ++ [record] }) }
      | none =>
          { install with
            files := Function.update install.files groupId
              (some { records := [record], life := install.lives + 1 })
            lives := install.lives + 1 }
    else install
  appended.markGroup groupId

def flush : HistoryInstall :=
  if install.taken = [] ∧ install.uploading = none then
    { install with marked := [], taken := install.marked }
  else install

/-- The next blob of the flush is put together, unless nothing can be read. -/
def load (groupId : String) (reads : Bool) (opens : ℕ → Bool) :
    HistoryInstall :=
  if groupId ∈ install.taken ∧ install.uploading = none then
    { install with
      taken := install.taken.erase groupId
      uploading := (install.files groupId).bind fun file =>
        if reads && !(file.load opens).isEmpty then
          some ⟨groupId, file.load opens, file⟩
        else none }
  else install

/-- The upload is over; the log is still the one that was uploaded if its life
goes on. -/
def settle (stored : Option ℕ) : HistoryInstall :=
  match install.uploading with
  | none => install
  | some upload =>
      { install with
        uploading := none
        files :=
          match stored, install.files upload.groupId with
          | some stamp, some file =>
              if file.life = upload.file.life then
                Function.update install.files upload.groupId
                  (some { file with base := some stamp })
              else install.files
          | _, _ => install.files }

/-- A group without a log is restored, if the blob can be read. -/
def restoreRead (groupId : String) (archive : Option VaultArchive) :
    HistoryInstall :=
  match install.files groupId, archive with
  | none, some archive =>
      { install with restoring := ⟨groupId, archive⟩ :: install.restoring }
  | _, _ => install

/-- The log is written from the blob that was read, whatever is there by
then. -/
def restoreWrite (userId : String) (encryptAtRest : Bool)
    (write : FileWrite String) (restore : ArchiveRestore) :
    HistoryInstall :=
  if restore ∈ install.restoring then
    let restored : HistoryFile := {
      records := restore.archive.messages.map
        (LogRecord.encode userId encryptAtRest)
      base := some restore.archive.stamp
      life := install.lives + 1 }
    let file := write.leaves (fun size => some (restored.cut size))
      (install.files restore.groupId) (some restored)
    { install with
      restoring := install.restoring.erase restore
      files := Function.update install.files restore.groupId file
      lives := install.lives + 1 }
  else install

def markLocal (groupId : String) : HistoryInstall :=
  if (install.files groupId).isSome then install.markGroup groupId
  else install

end HistoryInstall

inductive HistoryEvent where
  | record (message : ArchivedMessage) (encryptAtRest written : Bool)
  | flush
  | load (groupId : String) (reads : Bool) (opens : ℕ → Bool)
  | put (outcome : PutOutcome)
  | restoreRead (groupId : String) (found : Bool)
  | restoreWrite (restore : ArchiveRestore) (encryptAtRest : Bool)
      (write : FileWrite String)
  | markLocal (groupId : String)

namespace HistoryAccount

variable (account : HistoryAccount)

def update (index : ℕ) (install : HistoryInstall) : HistoryAccount :=
  { account with installs := Function.update account.installs index install }

/-- A put that reaches the vault replaces the blob there. -/
def put (index : ℕ) (outcome : PutOutcome) : HistoryAccount :=
  match (account.installs index).uploading with
  | none => account
  | some upload =>
      if outcome.reaches then
        { account.update index
            ((account.installs index).settle (some (account.stamps + 1))) with
          vault := Function.update account.vault upload.groupId
            (some ⟨upload.messages, account.stamps + 1⟩)
          stamps := account.stamps + 1
          replaced := account.replaced ++
            (account.vault upload.groupId).toList.map fun old =>
              (old.messages, upload.messages) }
      else account.update index ((account.installs index).settle none)

def step (userId : String) (account : HistoryAccount) :
    ℕ × HistoryEvent → HistoryAccount
  | (index, event) =>
      let install := account.installs index
      match event with
      | .record message encryptAtRest written =>
          account.update index (install.record written message.groupId
            (.encode userId encryptAtRest message))
      | .flush => account.update index install.flush
      | .load groupId reads opens =>
          account.update index (install.load groupId reads opens)
      | .put outcome => account.put index outcome
      | .restoreRead groupId found =>
          account.update index (install.restoreRead groupId
            (if found then account.vault groupId else none))
      | .restoreWrite restore encryptAtRest write =>
          account.update index
            (install.restoreWrite userId encryptAtRest write restore)
      | .markLocal groupId =>
          account.update index (install.markLocal groupId)

end HistoryAccount

end Accord
